import MeshControl.Json.Node

/-!
# JSON values as text

A value is written with the blanks of a layout between its parts: `Value.compact` writes no blank at
all, `Value.pretty` one item or member a line with two spaces of indentation per level.  Every layout
leaves the members of an object in the order in which they stand and all characters but quotes,
backslashes and controls as they are, and writes a floating-point number with the fewest digits that
read back: in positional form if its decimal point falls within sixteen digits after the first digit
or at most four zeros before it, and always with a point or an exponent, whose sign is always written.
-/

namespace MeshControl.Json

open MeshControl.Text

/-- A character as it stands in a string. -/
def stringChar (c : Char) : List Char :=
  if c = '"' ∨ c = '\\' then ['\\', c]
  else if c = '\x08' then ['\\', 'b']
  else if c = '\x0c' then ['\\', 'f']
  else if c = '\n' then ['\\', 'n']
  else if c = '\r' then ['\\', 'r']
  else if c = '\t' then ['\\', 't']
  else if c.toNat < 0x20 then ['\\', 'u'] ++ hexPadded 4 c.toNat
  else [c]

/-- A text as a string. -/
def stringText (s : String) : List Char :=
  '"' :: s.toList.flatMap stringChar ++ ['"']

/-! ### Numbers -/

/-- A row of digits as text. -/
def digitsText (ds : List Nat) : List Char :=
  ds.map Nat.digitChar

namespace Literal

/-- A point and the digits after it. -/
def fractionText : Option (List Nat) → List Char
  | none => []
  | some ds => '.' :: digitsText ds

/-- An exponent, which has a sign even where it is positive. -/
def exponentText : Option (Bool × List Nat) → List Char
  | none => []
  | some (isNegative, ds) => 'e' :: (if isNegative then '-' else '+') :: digitsText ds

/-- A number as text. -/
def text (l : Literal) : List Char :=
  (if l.negative then ['-'] else []) ++ digitsText l.whole ++ fractionText l.fraction?
    ++ exponentText l.exponent?

/-- The decimal `± c · 10 ^ k`, where `c` is zero or has no zero at its end. -/
def ofDecimal (negative : Bool) (c : Nat) (k : Int) : Literal :=
  let ds := digits c
  let point := ds.length + k
  if c = 0 then ⟨negative, [0], some [0], none⟩
  else if 0 ≤ k ∧ point ≤ 16 then ⟨negative, ds ++ List.replicate k.toNat 0, some [0], none⟩
  else if 0 < point ∧ point ≤ 16 then
    ⟨negative, ds.take point.toNat, some (ds.drop point.toNat), none⟩
  else if -5 < point ∧ point ≤ 0 then
    ⟨negative, [0], some (List.replicate (-point).toNat 0 ++ ds), none⟩
  else
    ⟨negative, ds.take 1, if ds.length = 1 then none else some (ds.drop 1),
      some (decide (point - 1 < 0), digits (point - 1).natAbs)⟩

end Literal

/-- The digits with which a number is written. -/
def Number.literal : Number → Literal
  | .natural n => ⟨false, digits n, none, none⟩
  | .negative n => ⟨true, digits n, none, none⟩
  | .real x => Literal.ofDecimal x.negative x.shortest.1 x.shortest.2

/-! ### Values -/

/-- The blanks between the parts of a value. -/
structure Layout where
  /-- Before an item or a member at a level of nesting, and before the bracket that closes it. -/
  line : (level : Nat) → List Char
  /-- Behind the colon of a member. -/
  gap : List Char
  isBlank_of_mem_line : ∀ level, ∀ c ∈ line level, isBlank c = true
  isBlank_of_mem_gap : ∀ c ∈ gap, isBlank c = true

namespace Layout

/-- No blank at all. -/
def tight : Layout where
  line _ := []
  gap := []
  isBlank_of_mem_line _ _ h := nomatch h
  isBlank_of_mem_gap _ h := nomatch h

/-- One item or member a line, with two spaces of indentation per level. -/
def indented : Layout where
  line level := '\n' :: List.replicate (2 * level) ' '
  gap := [' ']
  isBlank_of_mem_line level c h := by
    rcases List.mem_cons.mp h with rfl | h
    · rfl
    · rw [List.eq_of_mem_replicate h]
      rfl
  isBlank_of_mem_gap c h := by
    rw [List.mem_singleton.mp h]
    rfl

end Layout

namespace Value

mutual

/-- The characters of a value that stands at a level of nesting. -/
def chars (layout : Layout) (level : Nat) : Value → List Char
  | .null => ['n', 'u', 'l', 'l']
  | .bool true => ['t', 'r', 'u', 'e']
  | .bool false => ['f', 'a', 'l', 's', 'e']
  | .number n => n.literal.text
  | .string s => stringText s
  | .array [] => ['[', ']']
  | .array (v :: rest) =>
    '[' :: (layout.line (level + 1) ++ chars layout (level + 1) v ++ moreItems layout (level + 1) rest
      ++ layout.line level ++ [']'])
  | .object [] => ['\x7b', '\x7d']
  | .object ((name, v) :: rest) =>
    '\x7b' :: (layout.line (level + 1) ++ stringText name ++ ':' :: layout.gap
      ++ chars layout (level + 1) v ++ moreMembers layout (level + 1) rest
      ++ layout.line level ++ ['\x7d'])

/-- Items after the first one, each with the comma before it. -/
def moreItems (layout : Layout) (level : Nat) : List Value → List Char
  | [] => []
  | v :: rest =>
    ',' :: (layout.line level ++ chars layout level v ++ moreItems layout level rest)

/-- Members after the first one, each with the comma before it. -/
def moreMembers (layout : Layout) (level : Nat) : List (String × Value) → List Char
  | [] => []
  | (name, v) :: rest =>
    ',' :: (layout.line level ++ stringText name ++ ':' :: layout.gap ++ chars layout level v
      ++ moreMembers layout level rest)

end

/-- A value as text in a layout. -/
def write (layout : Layout) (v : Value) : String :=
  String.ofList (v.chars layout 0)

/-- A value as text without blanks. -/
def compact (v : Value) : String :=
  v.write .tight

/-- A value as text with one item or member a line. -/
def pretty (v : Value) : String :=
  v.write .indented

end Value

end MeshControl.Json
