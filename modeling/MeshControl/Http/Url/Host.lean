import MeshControl.Address.Reader
import MeshControl.Http.Url.Basic
import MeshControl.Http.Url.Name

/-!
# Hosts

A host is a name or an address.  If the last part of a name is a number it is an address of version 4,
whose parts may be decimal, octal or hexadecimal and may be left out in the middle.  An address of
version 6 stands in brackets.
-/

namespace MeshControl.Http.Url

open MeshControl.Address MeshControl.Text

/-- A part of a numeric host: decimal, octal after a zero, hexadecimal after `0x`. -/
def hostNumber? (cs : List Char) : Option Nat :=
  match cs with
  | '0' :: 'x' :: rest => if rest.isEmpty then some 0 else hexadecimal? rest
  | '0' :: rest =>
    if rest.isEmpty then some 0
    else continueNumber? (fun c => (decimalValue? c).filter (· < 8)) 8 0 rest
  | cs => decimal? cs

/-- The parts of a host between dots, a dot at the end left out. -/
def hostParts (cs : List Char) : List (List Char) :=
  let parts := cs.splitOn '.'
  if 1 < parts.length ∧ parts.getLast? = some [] then parts.dropLast else parts

/-- Whether the last part of a host is a number, so that the host is an address of version 4. -/
def endsInNumber (cs : List Char) : Bool :=
  match (hostParts cs).getLast? with
  | some last => !last.isEmpty && (last.all Char.isDigit || (hostNumber? last).isSome)
  | none => false

/-- The number that numeric parts make up: each but the last is one octet, the last fills the rest. -/
def combineParts? (parts : List Nat) : Option Nat :=
  match parts.reverse with
  | [] => none
  | last :: before =>
    if parts.length ≤ 4 ∧ before.all (· < 256) ∧ last < Nat.pow 256 (5 - parts.length) then
      let leading := before.reverse.foldl (fun n octet => 256 * n + octet) 0
      some (leading * Nat.pow 256 (5 - parts.length) + last)
    else none

/-- A numeric host as an address of version 4. -/
def numericHost? (cs : List Char) : Option String := do
  let n ← combineParts? (← (hostParts cs).mapM hostNumber?)
  return String.ofList (V4.chars ⟨UInt8.ofNat (n >>> 24), UInt8.ofNat (n >>> 16),
    UInt8.ofNat (n >>> 8), UInt8.ofNat n⟩)

/-- An address of version 6 in groups only, the first longest stretch of zeros left out. -/
def groupedHost (ip : V6) : String :=
  let (start, length) := V6.zeroStretch 0 ip.groups
  String.ofList ('[' :: (if 2 ≤ length then
      V6.groupChars (ip.groups.take start) ++ [':', ':']
        ++ V6.groupChars (ip.groups.drop (start + length))
    else V6.groupChars ip.groups) ++ [']'])

/-- Whether a character may stand in the name of a host. -/
def isHostChar (c : Char) : Bool :=
  0x20 < c.toNat && c.toNat < 0x7F
    && !(['#', '/', ':', '<', '>', '?', '@', '[', '\\', ']', '^', '|', '%'].contains c)

/-- The host that a text names. -/
def readHost (cs : List Char) : Except UrlError String :=
  match cs with
  | [] => .error .emptyHost
  | '[' :: rest =>
    match V6.ofChars? rest.dropLast with
    | some ip => if rest.getLast? = some ']' then .ok (groupedHost ip) else .error .badV6
    | none => .error .badV6
  | cs =>
    match (Utf8.decode? (percentDecode cs)).bind (readName? ·.toList) with
    | none => .error .badHost
    | some [] => .error .emptyHost
    | some name =>
      if !name.all isHostChar then .error .badHost
      else if endsInNumber name then
        match numericHost? name with
        | some ip => .ok ip
        | none => .error .badV4
      else .ok (String.ofList name)

/-- A host of a scheme of its own: any characters but those that end it, or none. -/
def readForeignHost (cs : List Char) : Except UrlError String :=
  match cs with
  | '[' :: _ => readHost cs
  | cs =>
    if cs.all fun c => c != '\x00' && c != ' ' && (isHostChar c || c == '%' || c.toNat < 0x20
        || 0x7F ≤ c.toNat) then
      .ok (String.ofList (encodeControls cs))
    else .error .badForeignHost

end MeshControl.Http.Url
