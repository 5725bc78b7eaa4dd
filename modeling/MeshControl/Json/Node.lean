import MeshControl.Json.Value
import MeshControl.Text.Digits
import MeshControl.Text.Utf8

/-!
# JSON texts as written

`Node.read?` reads the grammar of JSON and nothing more: what a text says about a name that nobody
asks for is checked for its form only, so a node keeps a number as its digits and a string that is no
text (it holds broken bytes or half a pair of surrogates) as `none`.  Members keep their order and
their repetitions.  What a node means is decided by those who ask (`Node.value?` and the decoders of
`MeshControl.Json.Decoder`).

The input is a row of characters and broken stretches, as `MeshControl.Text.Utf8.pieces` cuts bytes.
-/

namespace MeshControl.Json

open MeshControl.Text

/-- The digits of a number as written: whole part, digits after the point, and the exponent with its
sign. -/
structure Literal where
  negative : Bool
  whole : List Nat
  fraction? : Option (List Nat)
  exponent? : Option (Bool × List Nat)
  deriving DecidableEq, Repr

/-- A JSON text as written. -/
inductive Node where
  | null
  | bool (b : Bool)
  | number (literal : Literal)
  /-- A string, or `none` if it is no text. -/
  | string (text? : Option String)
  | array (items : List Node)
  | object (members : List (Option String × Node))
  deriving Repr, Inhabited

/-- A row of characters and broken stretches. -/
abbrev Pieces := List (Option Char)

/-! ### Strings -/

/-- A part of a string: a character, a sixteen-bit unit given by its number, or a broken stretch. -/
inductive StringPart where
  | char (c : Char)
  | unit (n : Nat)
  | broken
  deriving DecidableEq, Repr

/-- The character that a backslash before a letter stands for. -/
def escaped? : Char → Option Char
  | '"' => some '"'
  | '\\' => some '\\'
  | '/' => some '/'
  | 'b' => some '\x08'
  | 'f' => some '\x0c'
  | 'n' => some '\n'
  | 'r' => some '\r'
  | 't' => some '\t'
  | _ => none

/-- The parts of a string up to its closing quote, and what follows the quote. -/
def stringParts? : Pieces → Option (List StringPart × Pieces)
  | [] => none
  | none :: rest => (stringParts? rest).map fun (parts, after) => (.broken :: parts, after)
  | some '"' :: rest => some ([], rest)
  | some '\\' :: some 'u' :: some a :: some b :: some c :: some d :: rest => do
    let n ← hexadecimal? [a, b, c, d]
    let (parts, after) ← stringParts? rest
    return (.unit n :: parts, after)
  | some '\\' :: some c :: rest => do
    let c ← escaped? c
    let (parts, after) ← stringParts? rest
    return (.char c :: parts, after)
  | some c :: rest =>
    if c.toNat < 0x20 ∨ c = '\\' then none
    else (stringParts? rest).map fun (parts, after) => (.char c :: parts, after)

/-- Whether a unit begins a pair of surrogates. -/
def isHighSurrogate (n : Nat) : Bool :=
  0xD800 ≤ n && n ≤ 0xDBFF

/-- Whether a unit ends a pair of surrogates. -/
def isLowSurrogate (n : Nat) : Bool :=
  0xDC00 ≤ n && n ≤ 0xDFFF

/-- The text that the parts of a string make up: surrogates have to stand in pairs, and no part may
be broken. -/
def partsText? : List StringPart → Option (List Char)
  | [] => some []
  | .char c :: rest => (partsText? rest).map (c :: ·)
  | .broken :: _ => none
  | .unit n :: rest =>
    if isHighSurrogate n then
      match rest with
      | .unit m :: rest =>
        if isLowSurrogate m then
          (partsText? rest).map (Char.ofNat (0x10000 + (n - 0xD800) * 0x400 + (m - 0xDC00)) :: ·)
        else none
      | _ => none
    else if isLowSurrogate n then none
    else (partsText? rest).map (Char.ofNat n :: ·)

/-- A string from behind its opening quote. -/
def readString? (input : Pieces) : Option (Option String × Pieces) :=
  (stringParts? input).map fun (parts, after) => ((partsText? parts).map String.ofList, after)

/-! ### Numbers -/

/-- The digits at the front, and what follows them. -/
def takeDigits : Pieces → List Nat × Pieces
  | some c :: rest =>
    match decimalValue? c with
    | some d => let (digits, after) := takeDigits rest; (d :: digits, after)
    | none => ([], some c :: rest)
  | input => ([], input)

/-- One or more digits at the front, and what follows them. -/
def readDigits? (input : Pieces) : Option (List Nat × Pieces) :=
  match takeDigits input with
  | ([], _) => none
  | result => some result

/-- The whole part of a number: zero alone, or digits that do not begin with zero. -/
def readWhole? (input : Pieces) : Option (List Nat × Pieces) :=
  match readDigits? input with
  | some (0 :: _ :: _, _) => none
  | result => result

/-- The digits after a point, if there is a point. -/
def readFraction? : Pieces → Option (Option (List Nat) × Pieces)
  | some '.' :: rest => (readDigits? rest).map fun (digits, after) => (some digits, after)
  | input => some (none, input)

/-- The digits of an exponent with its sign. -/
def readExponentDigits? : Pieces → Option ((Bool × List Nat) × Pieces)
  | some '-' :: rest => (readDigits? rest).map fun (digits, after) => ((true, digits), after)
  | some '+' :: rest => (readDigits? rest).map fun (digits, after) => ((false, digits), after)
  | input => (readDigits? input).map fun (digits, after) => ((false, digits), after)

/-- The exponent, if there is one. -/
def readExponent? : Pieces → Option (Option (Bool × List Nat) × Pieces)
  | some 'e' :: rest => (readExponentDigits? rest).map fun (exponent, after) => (some exponent, after)
  | some 'E' :: rest => (readExponentDigits? rest).map fun (exponent, after) => (some exponent, after)
  | input => some (none, input)

/-- A number without its sign. -/
def readMagnitude? (negative : Bool) (input : Pieces) : Option (Literal × Pieces) := do
  let (whole, input) ← readWhole? input
  let (fraction?, input) ← readFraction? input
  let (exponent?, input) ← readExponent? input
  return (⟨negative, whole, fraction?, exponent?⟩, input)

/-- A number. -/
def readNumber? : Pieces → Option (Literal × Pieces)
  | some '-' :: rest => readMagnitude? true rest
  | input => readMagnitude? false input

/-! ### Values -/

/-- Whether a character may stand between the parts of a value. -/
def isBlank (c : Char) : Bool :=
  c = ' ' || c = '\t' || c = '\n' || c = '\r'

/-- The input without the blanks at its front. -/
def skipBlanks : Pieces → Pieces
  | some c :: rest => if isBlank c then skipBlanks rest else some c :: rest
  | input => input

/-- The name of a member with the colon after it. -/
def readName? (input : Pieces) : Option (Option String × Pieces) :=
  match skipBlanks input with
  | some '"' :: rest => do
    let (name, rest) ← readString? rest
    match skipBlanks rest with
    | some ':' :: rest => return (name, rest)
    | _ => none
  | _ => none

mutual

/-- A value and what follows it.  Each step takes at least one piece of input, so the length of the
input is fuel enough. -/
def readNode? (fuel : Nat) (input : Pieces) : Option (Node × Pieces) :=
  match fuel with
  | 0 => none
  | fuel + 1 =>
    match skipBlanks input with
    | some 'n' :: some 'u' :: some 'l' :: some 'l' :: rest => some (.null, rest)
    | some 't' :: some 'r' :: some 'u' :: some 'e' :: rest => some (.bool true, rest)
    | some 'f' :: some 'a' :: some 'l' :: some 's' :: some 'e' :: rest => some (.bool false, rest)
    | some '"' :: rest => (readString? rest).map fun (s, rest) => (.string s, rest)
    | some '[' :: rest =>
      match skipBlanks rest with
      | some ']' :: rest => some (.array [], rest)
      | _ => (readItems? fuel rest).map fun (items, rest) => (.array items, rest)
    | some '\x7b' :: rest =>
      match skipBlanks rest with
      | some '\x7d' :: rest => some (.object [], rest)
      | _ => (readMembers? fuel rest).map fun (members, rest) => (.object members, rest)
    | input => (readNumber? input).map fun (literal, rest) => (.number literal, rest)

/-- One or more items up to the closing bracket. -/
def readItems? (fuel : Nat) (input : Pieces) : Option (List Node × Pieces) :=
  match fuel with
  | 0 => none
  | fuel + 1 => do
    let (item, rest) ← readNode? fuel input
    match skipBlanks rest with
    | some ']' :: rest => return ([item], rest)
    | some ',' :: rest =>
      let (items, rest) ← readItems? fuel rest
      return (item :: items, rest)
    | _ => none

/-- One or more members up to the closing brace. -/
def readMembers? (fuel : Nat) (input : Pieces) : Option (List (Option String × Node) × Pieces) :=
  match fuel with
  | 0 => none
  | fuel + 1 => do
    let (name, rest) ← readName? input
    let (item, rest) ← readNode? fuel rest
    match skipBlanks rest with
    | some '\x7d' :: rest => return ([(name, item)], rest)
    | some ',' :: rest =>
      let (members, rest) ← readMembers? fuel rest
      return ((name, item) :: members, rest)
    | _ => none

end

namespace Node

/-- The node that a whole input writes: one value with nothing but blanks around it. -/
def read? (input : Pieces) : Option Node :=
  match readNode? (2 * input.length + 2) input with
  | some (node, rest) => if (skipBlanks rest).isEmpty then some node else none
  | none => none

/-- The node that a text writes. -/
def ofText? (s : String) : Option Node :=
  read? (s.toList.map some)

/-- The node that bytes write. -/
def ofBytes? (bytes : List UInt8) : Option Node :=
  read? (Utf8.pieces bytes)

end Node

end MeshControl.Json
