import MeshControl.Text.Digits

/-!
# Internet addresses and their text

An address of version 4 is four octets, one of version 6 is eight groups of sixteen bits; a socket
address adds a port and, in version 6, a scope.  The texts that denote an address of version 6 are
many: groups may drop leading zeros and use capital digits, one `::` may stand for a stretch of zero
groups, and the last two groups may be written as an address of version 4.  Its display (`V6.chars`)
is one of them: small digits, the first longest stretch of two or more zero groups as `::`, and an
address that maps version 4 in mixed form.
-/

namespace MeshControl.Address

open MeshControl.Text

/-- An address of version 4. -/
structure V4 where
  a : UInt8
  b : UInt8
  c : UInt8
  d : UInt8
  deriving DecidableEq, Repr

/-- An address of version 6. -/
structure V6 where
  a : UInt16
  b : UInt16
  c : UInt16
  d : UInt16
  e : UInt16
  f : UInt16
  g : UInt16
  h : UInt16
  deriving DecidableEq, Repr

/-- An address of either version.  An address of version 4 differs from the one of version 6 that maps
it. -/
inductive Ip where
  | v4 (ip : V4)
  | v6 (ip : V6)
  deriving DecidableEq, Repr

/-- An address with a port. -/
inductive Socket where
  | v4 (ip : V4) (port : UInt16)
  | v6 (ip : V6) (port : UInt16) (scope : UInt32)
  deriving DecidableEq, Repr

/-! ### Writing -/

namespace V4

/-- The dotted quad of an address. -/
def chars (ip : V4) : List Char :=
  decimal ip.a.toNat ++ '.' :: decimal ip.b.toNat ++ '.' :: decimal ip.c.toNat
    ++ '.' :: decimal ip.d.toNat

/-- Whether the address is `0.0.0.0`. -/
def isUnspecified (ip : V4) : Bool :=
  ip = ⟨0, 0, 0, 0⟩

/-- The two groups that an address makes up at the end of one of version 6. -/
def groups (ip : V4) : List UInt16 :=
  [UInt16.ofNat (ip.a.toNat * 256 + ip.b.toNat), UInt16.ofNat (ip.c.toNat * 256 + ip.d.toNat)]

end V4

namespace V6

/-- The groups of an address in order. -/
def groups (ip : V6) : List UInt16 :=
  [ip.a, ip.b, ip.c, ip.d, ip.e, ip.f, ip.g, ip.h]

/-- The address of eight groups. -/
def ofGroups? : List UInt16 → Option V6
  | [a, b, c, d, e, f, g, h] => some ⟨a, b, c, d, e, f, g, h⟩
  | _ => none

/-- Whether the address is `::`. -/
def isUnspecified (ip : V6) : Bool :=
  ip = ⟨0, 0, 0, 0, 0, 0, 0, 0⟩

/-- The address of version 4 that an address maps. -/
def mapped? (ip : V6) : Option V4 :=
  match ip with
  | ⟨0, 0, 0, 0, 0, 0xFFFF, g, h⟩ =>
    some ⟨UInt8.ofNat (g.toNat / 256), UInt8.ofNat (g.toNat % 256), UInt8.ofNat (h.toNat / 256),
      UInt8.ofNat (h.toNat % 256)⟩
  | _ => none

/-- Groups in small digits without leading zeros, with colons between them. -/
def groupChars (groups : List UInt16) : List Char :=
  [':'].intercalate (groups.map fun g => hexadecimal g.toNat)

/-- The number of zero groups at the front. -/
def zerosAtFront (groups : List UInt16) : Nat :=
  (groups.takeWhile (· == 0)).length

/-- The first longest stretch of zero groups, as its position and length; `start` is the position of
the first group. -/
def zeroStretch (start : Nat) : List UInt16 → Nat × Nat
  | [] => (start, 0)
  | g :: rest =>
    let here := zerosAtFront (g :: rest)
    let later := zeroStretch (start + 1) rest
    if later.2 ≤ here then (start, here) else later

/-- The display of an address. -/
def chars (ip : V6) : List Char :=
  match ip.mapped? with
  | some v4 => "::ffff:".toList ++ v4.chars
  | none =>
    let (start, length) := zeroStretch 0 ip.groups
    if 2 ≤ length then
      groupChars (ip.groups.take start) ++ [':', ':'] ++ groupChars (ip.groups.drop (start + length))
    else groupChars ip.groups

/-- The eight groups in four digits each, with colons between them. -/
def expandedChars (ip : V6) : List Char :=
  [':'].intercalate (ip.groups.map fun g => hexPadded 4 g.toNat)

end V6

namespace Ip

/-- The display of an address. -/
def chars : Ip → List Char
  | .v4 ip => ip.chars
  | .v6 ip => ip.chars

/-- The display of an address. -/
def text (ip : Ip) : String :=
  String.ofList ip.chars

/-- The form of an address in which each place counts: the dotted quad, or eight groups of four
digits. -/
def expandedChars : Ip → List Char
  | .v4 ip => ip.chars
  | .v6 ip => ip.expandedChars

/-- Whether no bit of the address is set. -/
def isUnspecified : Ip → Bool
  | .v4 ip => ip.isUnspecified
  | .v6 ip => ip.isUnspecified

end Ip

namespace Socket

/-- The address without the port. -/
def ip : Socket → Ip
  | .v4 ip _ => .v4 ip
  | .v6 ip _ _ => .v6 ip

/-- The display of a socket address; a scope of zero is left out. -/
def chars : Socket → List Char
  | .v4 ip port => ip.chars ++ ':' :: decimal port.toNat
  | .v6 ip port scope =>
    '[' :: ip.chars ++ (if scope = 0 then [] else '%' :: decimal scope.toNat)
      ++ [']', ':'] ++ decimal port.toNat

end Socket

end MeshControl.Address
