import MeshControl.Text.Digits
import MeshControl.Text.VisibleTable

/-!
# Quoted text

A text between double quotes in which everything is visible: quotes and backslashes are marked by a
backslash, tab, newline, carriage return and the null character have a letter of their own, and each
other character without ink of its own is written as its code point in braces.
-/

namespace MeshControl.Text

/-- Whether a character has to be written as its code point: it has no ink of its own or attaches to
the character before it. -/
def isHidden (c : Char) : Bool :=
  onRun inklessRuns c.toNat || onRun attachedRuns c.toNat

/-- A character as it is written between quotes. -/
def quotedChar (c : Char) : List Char :=
  if c = '"' ∨ c = '\\' then ['\\', c]
  else if c = '\x00' then ['\\', '0']
  else if c = '\t' then ['\\', 't']
  else if c = '\n' then ['\\', 'n']
  else if c = '\r' then ['\\', 'r']
  else if isHidden c then ['\\', 'u', '\x7b'] ++ hexadecimal c.toNat ++ ['\x7d']
  else [c]

/-- A text between quotes. -/
def quoted (s : String) : String :=
  String.ofList ('"' :: s.toList.flatMap quotedChar ++ ['"'])

end MeshControl.Text
