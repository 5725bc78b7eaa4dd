import MeshControl.Address.Reader
import MeshControl.Text.Blank

/-!
# Addresses by value

Reports name hosts by text, and one host has many texts.  `Canonical.ofText` reads a text as a bare
address or a socket address, with blanks around it ignored, and keeps any other text as it is; two
texts are the same address (`same`) if they have one canonical value.  `expanded?` is the text of a
bare address in which each place counts, so that sorting and comparing the beginnings of expanded
texts follow the value.
-/

namespace MeshControl.Address

open MeshControl.Text

/-- The value of an address text. -/
inductive Canonical where
  | ip (address : Ip)
  | socket (endpoint : Socket)
  /-- A text that is no address, with the blanks around it. -/
  | raw (text : String)
  deriving DecidableEq, Repr

namespace Canonical

/-- The value of a text. -/
def ofText (s : String) : Canonical :=
  match Ip.ofChars? (trim s.toList) with
  | some address => .ip address
  | none =>
    match Socket.ofChars? (trim s.toList) with
    | some endpoint => .socket endpoint
    | none => .raw s

/-- The display of a value. -/
def text : Canonical → String
  | .ip address => address.text
  | .socket endpoint => String.ofList endpoint.chars
  | .raw s => s

/-- Whether a value names no host: the address without a set bit, with or without port, or a text of
blanks. -/
def isUnspecified : Canonical → Bool
  | .ip address => address.isUnspecified
  | .socket endpoint => endpoint.ip.isUnspecified
  | .raw s => (trim s.toList).isEmpty

end Canonical

/-- Whether two texts are one address. -/
def same (a b : String) : Bool :=
  Canonical.ofText a = Canonical.ofText b

/-- The expanded form of a bare address. -/
def expanded? (s : String) : Option String :=
  (Ip.ofChars? (trim s.toList)).map fun ip => String.ofList ip.expandedChars

/-- The expanded form of a bare address, and any other text as it is. -/
def expandedOrSelf (s : String) : String :=
  (expanded? s).getD s

/-- Whether a text names no host. -/
def isUnspecified (s : String) : Bool :=
  (Canonical.ofText s).isUnspecified

@[simp]
theorem same_refl (a : String) : same a a = true := by
  simp [same]

theorem same_iff {a b : String} : same a b = true ↔ Canonical.ofText a = Canonical.ofText b := by
  simp [same]

end MeshControl.Address
