import MeshControl.Text.Digits
import MeshControl.Text.Utf8

/-!
# Percent encoding and form fields

A byte that may not stand for itself is written as a percent sign and two capital hexadecimal digits.
`Form.encode` writes name and value pairs as a form does, with a plus sign for a space, and
`Form.decode` is its reader.  The writer leaves letters, digits and the four signs asterisk, hyphen,
full stop and underscore alone, so that no character of a value can end a value or a pair.
-/

namespace MeshControl.Text

/-- A hexadecimal digit in capital form. -/
def capitalHexDigit (d : Nat) : Char :=
  (Nat.digitChar d).toUpper

/-- A byte as a percent sign and two digits. -/
def percentByte (b : UInt8) : List Char :=
  ['%', capitalHexDigit (b.toNat / 16), capitalHexDigit (b.toNat % 16)]

/-- The bytes of a text, each one of `keep` as the ASCII character it is and each other one in percent
form. -/
def percentEncode (keep : UInt8 → Bool) (s : String) : List Char :=
  (Utf8.encode s).flatMap fun b => if keep b then [Char.ofNat b.toNat] else percentByte b

/-- The bytes that percent-encoded characters stand for: a percent sign before two hexadecimal digits
is the byte they name, and any other character is its own bytes. -/
def percentDecode : List Char → List UInt8
  | '%' :: a :: b :: rest =>
    match hexValue? a, hexValue? b with
    | some high, some low => UInt8.ofNat (16 * high + low) :: percentDecode rest
    | _, _ => String.utf8EncodeChar '%' ++ percentDecode (a :: b :: rest)
  | c :: rest => String.utf8EncodeChar c ++ percentDecode rest
  | [] => []

namespace Form

/-- The bytes that stand for themselves in a form. -/
def isPlain (b : UInt8) : Bool :=
  let c := Char.ofNat b.toNat
  b.toNat < 0x80 && (c.isAlphanum || c == '*' || c == '-' || c == '.' || c == '_')

/-- A name or a value as a form writes it. -/
def encodeText (s : String) : List Char :=
  (Utf8.encode s).flatMap fun b =>
    if b = 0x20 then ['+'] else if isPlain b then [Char.ofNat b.toNat] else percentByte b

/-- A pair as a form writes it. -/
def encodePair (pair : String × String) : List Char :=
  encodeText pair.1 ++ '=' :: encodeText pair.2

/-- Name and value pairs as one form. -/
def encode (pairs : List (String × String)) : String :=
  String.ofList (['&'].intercalate (pairs.map encodePair))

/-- The text that a name or a value of a form stands for. -/
def decodeText (cs : List Char) : String :=
  Utf8.decodeLossy (percentDecode (cs.map fun c => if c = '+' then ' ' else c))

/-- The pair that a stretch between ampersands stands for. -/
def decodePair (cs : List Char) : String × String :=
  (decodeText (cs.takeWhile (· ≠ '=')), decodeText ((cs.dropWhile (· ≠ '=')).drop 1))

/-- The name and value pairs of a form. -/
def decode (s : String) : List (String × String) :=
  ((s.toList.splitOn '&').filter (!·.isEmpty)).map decodePair

end Form

end MeshControl.Text
