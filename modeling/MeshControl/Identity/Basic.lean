import MeshControl.Address.Canonical
import MeshControl.Text.Letters
import MeshControl.Text.Quoted
import MeshControl.Text.Search

/-!
# Identities

A generated identity is an address of version 6 followed by key material.  Prefixes are compared with
the expanded form of the address, so every group counts four digits and the spelling of the address
does not matter.
-/

namespace MeshControl

open MeshControl.Address MeshControl.Text

/-- A generated identity. -/
structure Identity where
  /-- The address as the generator spells it. -/
  address : String
  /-- All that the generator wrote, which includes key material. -/
  raw : String
  deriving DecidableEq, Repr, Inhabited

namespace Identity

/-- The identity in the output of a generator, whose first word is the address. -/
def ofOutput? (output : String) : Option Identity :=
  match words output.toList with
  | address :: _ =>
    if (V6.ofChars? address).isSome then some ⟨String.ofList address, trimmed output⟩ else none
  | [] => none

/-- An identity as diagnostics show it, without the key material. -/
def redacted (i : Identity) : String :=
  "Identity \x7b address: " ++ quoted i.address ++ ", raw: " ++ quoted "<redacted>" ++ " \x7d"

/-- Whether the expanded address of an identity begins with a prefix, in any case of letters. -/
def hasPrefix (i : Identity) (start : String) : Bool :=
  (expanded? i.address).any fun full => startsWith full (asciiLowered (trimmed start))

/-- Whether a character may stand in a prefix. -/
def isPrefixChar (c : Char) : Bool :=
  (hexValue? c).isSome || c == ':'

/-- Whether a text can be searched for: digits and colons, at least one. -/
def isSearchable (start : String) : Bool :=
  !start.isEmpty && start.toList.all isPrefixChar

/-- Why a search yields nothing. -/
inductive SearchError where
  /-- The generator failed. -/
  | generator (cause : String)
  | badPrefix (start : String)
  deriving DecidableEq, Repr

/-- The message of an error. -/
def SearchError.message : SearchError → String
  | generator cause => "unable to generate an identity: " ++ cause
  | badPrefix start =>
    "invalid prefix " ++ quoted start ++ ": only hexadecimal digits and ':' are allowed"

end Identity

end MeshControl
