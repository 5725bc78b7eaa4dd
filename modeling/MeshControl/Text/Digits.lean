/-!
# Numbers in decimal and hexadecimal text

Reading is strict: a number is one or more digits of the base and nothing else, so there is no sign,
no blank and no mark between digits.  Capital and small hexadecimal digits read alike; numbers are
written in small digits without leading zeros.
-/

namespace MeshControl.Text

/-- The value of a hexadecimal digit. -/
def hexValue? (c : Char) : Option Nat :=
  if '0' ≤ c ∧ c ≤ '9' then some (c.toNat - '0'.toNat)
  else if 'a' ≤ c ∧ c ≤ 'f' then some (c.toNat - 'a'.toNat + 10)
  else if 'A' ≤ c ∧ c ≤ 'F' then some (c.toNat - 'A'.toNat + 10)
  else none

/-- The value of a decimal digit. -/
def decimalValue? (c : Char) : Option Nat :=
  if '0' ≤ c ∧ c ≤ '9' then some (c.toNat - '0'.toNat) else none

/-- The number that digits continue when `start` stands before them. -/
def continueNumber? (value? : Char → Option Nat) (base : Nat) (start : Nat) : List Char → Option Nat
  | [] => some start
  | c :: rest => (value? c).bind fun d => continueNumber? value? base (base * start + d) rest

/-- The number written by one or more decimal digits. -/
def decimal? (cs : List Char) : Option Nat :=
  if cs.isEmpty then none else continueNumber? decimalValue? 10 0 cs

/-- The number written by one or more hexadecimal digits. -/
def hexadecimal? (cs : List Char) : Option Nat :=
  if cs.isEmpty then none else continueNumber? hexValue? 16 0 cs

/-- A number in decimal digits. -/
def decimal (n : Nat) : List Char :=
  Nat.toDigits 10 n

/-- The values of the decimal digits of a number. -/
def digits (n : Nat) : List Nat :=
  (decimal n).map fun c => c.toNat - '0'.toNat

/-- A number in small hexadecimal digits. -/
def hexadecimal (n : Nat) : List Char :=
  Nat.toDigits 16 n

/-- The last `width` hexadecimal digits of a number, with zeros in front where it has fewer. -/
def hexPadded : (width : Nat) → Nat → List Char
  | 0, _ => []
  | width + 1, n => hexPadded width (n / 16) ++ [Nat.digitChar (n % 16)]

@[simp]
theorem length_hexPadded (width n : Nat) : (hexPadded width n).length = width := by
  induction width generalizing n with
  | zero => rfl
  | succ width ih => simp [hexPadded, ih]

end MeshControl.Text
