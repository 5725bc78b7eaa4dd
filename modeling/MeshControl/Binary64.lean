/-!
# Binary floating-point numbers of 64 bits

A finite number is a sign and `significand · 2 ^ exponent`, kept in the form with the largest
significand below `2 ^ 53` that the smallest exponent allows, so equal numbers of equal sign have one
form.  All arithmetic is exact on natural numbers and rounds once, to the nearest number and at a tie
to the even significand (`nearest?`); `none` stands for a result beyond the largest finite number.

`shortest` gives the fewest decimal digits that read back as the number, and of those the nearest to
it: for one digit, two digits, and so on it tries the two neighbours of the number on the grid of that
many digits, and the first grid with a neighbour in the interval of rounding wins.
-/

namespace MeshControl

/-- A finite binary floating-point number: `± significand · 2 ^ exponent`. -/
structure Binary64 where
  negative : Bool
  significand : Nat
  exponent : Int
  deriving DecidableEq, Repr, Inhabited

namespace Binary64

/-- The exponent of the smallest numbers. -/
def minExponent : Int := -1074

/-- The exponent of the largest numbers. -/
def maxExponent : Int := 971

/-- The factor above the fraction line in `b ^ e`. -/
def above (b : Nat) (e : Int) : Nat :=
  Nat.pow b e.toNat

/-- The factor below the fraction line in `b ^ e`. -/
def under (b : Nat) (e : Int) : Nat :=
  Nat.pow b (-e).toNat

/-- The bound on significands, `2 ^ 53`. -/
def significandBound : Nat := 9007199254740992

/-- The magnitude nearest to `num / den` as a significand and an exponent, a tie going to the even
significand. -/
def nearest? (num den : Nat) : Option (Nat × Int) :=
  if num = 0 then some (0, minExponent)
  else
    let scaled (e : Int) : Nat × Nat := (num * under 2 e, den * above 2 e)
    let low := max ((num.log2 : Int) - den.log2 - 53) minExponent
    let e := if (scaled low).1 / (scaled low).2 < significandBound then low else low + 1
    let (n, d) := scaled e
    let q := n / d
    let r := n % d
    let q := if 2 * r > d ∨ (2 * r = d ∧ q % 2 = 1) then q + 1 else q
    let (q, e) := if q = significandBound then (significandBound / 2, e + 1) else (q, e)
    if e > maxExponent then none else some (q, e)

/-- The number nearest to `± num / den`. -/
def ofRatio? (negative : Bool) (num den : Nat) : Option Binary64 :=
  (nearest? num den).map fun (m, e) => ⟨negative, m, e⟩

/-- The number nearest to a natural number. -/
def ofNat? (n : Nat) : Option Binary64 :=
  ofRatio? false n 1

/-- The product of two numbers, rounded once. -/
def mul? (a b : Binary64) : Option Binary64 :=
  let e := a.exponent + b.exponent
  ofRatio? (a.negative != b.negative) (a.significand * b.significand * above 2 e) (under 2 e)

/-- The quotient of two numbers, the second not zero, rounded once. -/
def div? (a b : Binary64) : Option Binary64 :=
  let e := a.exponent - b.exponent
  ofRatio? (a.negative != b.negative) (a.significand * above 2 e)
    (b.significand * under 2 e)

/-- The number with the other sign. -/
def neg (a : Binary64) : Binary64 :=
  { a with negative := !a.negative }

/-! ### The fewest digits -/

/-- Whether `a · 2 ^ p` is below (`.lt`), at or above `b · 10 ^ q`. -/
def compareScaled (a : Nat) (p : Int) (b : Nat) (q : Int) : Ordering :=
  compare (a * above 2 p * under 10 q) (b * above 10 q * under 2 p)

/-- The largest `k` with `10 ^ k ≤ m · 2 ^ e`, for a positive `m` and an exponent in range. -/
def decimalExponent (m : Nat) (e : Int) : Int :=
  let k := ((m.log2 : Int) + e) * 30103 / 100000
  if compareScaled m e 1 (k + 1) = .lt then k else k + 1

/-- Whether `c · 10 ^ k` rounds to `m · 2 ^ e`: it lies between the halfway points to the neighbours,
which belong to the interval if `m` is even. -/
def roundsTo (m : Nat) (e : Int) (c : Nat) (k : Int) : Bool :=
  let lower := if m = significandBound / 2 ∧ e > minExponent then 4 * m - 1 else 4 * m - 2
  let low := compareScaled lower (e - 2) c k
  let high := compareScaled (4 * m + 2) (e - 2) c k
  (low = .lt || (low = .eq && m % 2 = 0)) && (high = .gt || (high = .eq && m % 2 = 0))

/-- The better of the two neighbours `q` and `q + 1` of `m · 2 ^ e` on the grid of `10 ^ k` that round
to it: the nearer, at a tie the even one. -/
def neighbour? (m : Nat) (e : Int) (q : Nat) (k : Int) : Option Nat :=
  match roundsTo m e q k, roundsTo m e (q + 1) k with
  | false, false => none
  | true, false => some q
  | false, true => some (q + 1)
  | true, true =>
    match compareScaled (2 * m) e (2 * q + 1) k with
    | .lt => some q
    | .gt => some (q + 1)
    | .eq => some (if q % 2 = 0 then q else q + 1)

/-- The first grid, from the one of step `10 ^ k` on, with a neighbour that rounds to `m · 2 ^ e`. -/
def firstGrid (m : Nat) (e : Int) : (grids : Nat) → (k : Int) → Nat × Int
  | 0, k => (0, k)
  | grids + 1, k =>
    let q := m * above 2 e * under 10 k / (above 10 k * under 2 e)
    match neighbour? m e q k with
    | some c => (c, k)
    | none => firstGrid m e grids (k - 1)

/-- A decimal without the zeros at its end. -/
def dropZeros (c : Nat) (k : Int) : Nat × Int :=
  if h : c ≠ 0 ∧ c % 10 = 0 then dropZeros (c / 10) (k + 1) else (c, k)
termination_by c
decreasing_by omega

/-- The digits `c` and the power `k` of the decimal `c · 10 ^ k` with the fewest digits that reads back
as the magnitude of a number. -/
def shortest (x : Binary64) : Nat × Int :=
  if x.significand = 0 then (0, 0)
  else
    let (c, k) := firstGrid x.significand x.exponent 17 (decimalExponent x.significand x.exponent)
    dropZeros c k

end Binary64

end MeshControl
