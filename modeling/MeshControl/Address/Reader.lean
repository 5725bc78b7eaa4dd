import MeshControl.Address.Ip
import MeshControl.Text.Search

/-!
# Reading addresses

Each reader takes the whole text or refuses it.  An octet is at most three decimal digits without a
leading zero, a group is one to four hexadecimal digits, a port and a scope are any number of decimal
digits within their range.
-/

namespace MeshControl.Address

open MeshControl.Text

/-- An octet. -/
def octet? (cs : List Char) : Option UInt8 :=
  if cs.length ≤ 3 ∧ (cs.length ≤ 1 ∨ cs.head? ≠ some '0') then
    (decimal? cs).bind fun n => if n < 256 then some (UInt8.ofNat n) else none
  else none

/-- A group of an address of version 6. -/
def group? (cs : List Char) : Option UInt16 :=
  if cs.length ≤ 4 then (hexadecimal? cs).map UInt16.ofNat else none

/-- A port. -/
def port? (cs : List Char) : Option UInt16 :=
  (decimal? cs).bind fun n => if n < UInt16.size then some (UInt16.ofNat n) else none

/-- A scope. -/
def scope? (cs : List Char) : Option UInt32 :=
  (decimal? cs).bind fun n => if n < UInt32.size then some (UInt32.ofNat n) else none

/-- A dotted quad. -/
def V4.ofChars? (cs : List Char) : Option V4 :=
  match cs.splitOn '.' with
  | [a, b, c, d] => do return ⟨← octet? a, ← octet? b, ← octet? c, ← octet? d⟩
  | _ => none

/-- Groups, the last two of which may be written as a dotted quad. -/
def mixedGroups? : List (List Char) → Option (List UInt16)
  | [] => some []
  | [part] =>
    match V4.ofChars? part with
    | some ip => some ip.groups
    | none => (group? part).map ([·])
  | part :: rest => do
    let g ← group? part
    let gs ← mixedGroups? rest
    return g :: gs

/-- The parts between colons; a text without characters has none. -/
def colonParts (cs : List Char) : List (List Char) :=
  if cs.isEmpty then [] else cs.splitOn ':'

/-- What stands before the first double colon and what stands after it. -/
def splitDoubleColon? : List Char → Option (List Char × List Char)
  | ':' :: ':' :: rest => some ([], rest)
  | c :: rest => (splitDoubleColon? rest).map fun (before, after) => (c :: before, after)
  | [] => none

/-- An address of version 6.  A double colon stands for at least one zero group, and no dotted quad
may stand before it. -/
def V6.ofChars? (cs : List Char) : Option V6 :=
  match splitDoubleColon? cs with
  | some (before, after) => do
    let front ← (colonParts before).mapM group?
    let back ← mixedGroups? (colonParts after)
    if front.length + back.length ≤ 7 then
      V6.ofGroups? (front ++ List.replicate (8 - front.length - back.length) 0 ++ back)
    else none
  | none => (mixedGroups? (colonParts cs)).bind V6.ofGroups?

/-- An address of either version. -/
def Ip.ofChars? (cs : List Char) : Option Ip :=
  match V4.ofChars? cs with
  | some ip => some (.v4 ip)
  | none => (V6.ofChars? cs).map .v6

/-- The address that a text writes. -/
def Ip.ofText? (s : String) : Option Ip :=
  Ip.ofChars? s.toList

/-- The address and the scope between the brackets of a socket address; the scope is zero if it is
left out. -/
def scopedIp? (cs : List Char) : Option (V6 × UInt32) :=
  match splitFirst? '%' cs with
  | none => (V6.ofChars? cs).map (·, 0)
  | some (ip, scope) => do return (← V6.ofChars? ip, ← scope? scope)

/-- A socket address: a dotted quad or a bracketed address of version 6, a colon and a port. -/
def Socket.ofChars? : List Char → Option Socket
  | '[' :: rest =>
    match splitFirst? ']' rest with
    | some (inner, ':' :: port) => do
      let (ip, scope) ← scopedIp? inner
      return .v6 ip (← port? port) scope
    | _ => none
  | cs =>
    match splitFirst? ':' cs with
    | some (ip, port) => do return .v4 (← V4.ofChars? ip) (← port? port)
    | none => none

/-- The socket address that a text writes. -/
def Socket.ofText? (s : String) : Option Socket :=
  Socket.ofChars? s.toList

end MeshControl.Address
