import MeshControl.Text.ComposedTable
import MeshControl.Text.Marks

/-!
# Composed text

The same letter with marks can be written in several ways: as one character or several, and with its
marks in several orders.  The composed form of a text takes every character apart (`decomposed`), puts
the marks behind each letter in the order of their classes (`ordered`), and joins again what can be
joined (`joinMarks`).  Two texts that differ in these ways only have the same composed form.
-/

namespace MeshControl.Text

/-! ### Syllables of Hangul -/

/-- The letters of a syllable: a consonant, a vowel, and a final consonant or none. -/
def syllableParts? (c : Char) : Option (List Char) :=
  let n := c.toNat - 0xAC00
  if 0xAC00 ≤ c.toNat ∧ n < 19 * 21 * 28 then
    let final := n % 28
    some (Char.ofNat (0x1100 + n / 28 / 21) :: Char.ofNat (0x1161 + n / 28 % 21)
      :: if final = 0 then [] else [Char.ofNat (0x11A7 + final)])
  else none

/-- The syllable of a consonant and a vowel, or of a syllable without a final consonant and one. -/
def syllable? (a b : Char) : Option Char :=
  let consonant := a.toNat - 0x1100
  let vowel := b.toNat - 0x1161
  let start := a.toNat - 0xAC00
  let final := b.toNat - 0x11A7
  if 0x1100 ≤ a.toNat ∧ consonant < 19 ∧ 0x1161 ≤ b.toNat ∧ vowel < 21 then
    some (Char.ofNat (0xAC00 + (consonant * 21 + vowel) * 28))
  else if 0xAC00 ≤ a.toNat ∧ start < 19 * 21 * 28 ∧ start % 28 = 0 ∧ 0 < final ∧ final < 28 then
    some (Char.ofNat (a.toNat + final))
  else none

/-! ### Letters with marks -/

/-- The letter and the mark that a character consists of. -/
def markedLetter? (c : Char) : Option (Char × Char) :=
  compositions.findSome? fun (mark, pairs) =>
    (pairs.find? (·.2 == c.toNat)).map fun (letter, _) => (Char.ofNat letter, Char.ofNat mark)

/-- The character that consists of a letter and a mark. -/
def joined? (letter mark : Char) : Option Char :=
  match syllable? letter mark with
  | some c => some c
  | none => ((compositions.lookup mark.toNat).bind (·.lookup letter.toNat)).map Char.ofNat

/-- A character taken apart, down to a depth: a letter and its marks in the order in which they were
joined to it. -/
def decomposedTo : Nat → Char → List Char
  | 0, c => [c]
  | depth + 1, c =>
    match markedLetter? c with
    | some (letter, mark) => decomposedTo depth letter ++ [mark]
    | none => (syllableParts? c).getD [c]

/-- A character taken apart; no character has more than three marks. -/
def decomposed (c : Char) : List Char :=
  decomposedTo 3 c

/-! ### The order of marks -/

/-- Puts a character at the end of a text, which is given in reverse: a mark goes before the marks of
higher classes. -/
def placeMark (c : Char) : List Char → List Char
  | [] => [c]
  | last :: before =>
    if 0 < markClass c ∧ markClass c < markClass last then last :: placeMark c before
    else c :: last :: before

/-- A text with the marks behind each letter in the order of their classes, those of one class in the
order in which they stand. -/
def ordered (cs : List Char) : List Char :=
  (cs.foldl (fun text c => placeMark c text) []).reverse

/-! ### Joining -/

/-- Joins a letter with the marks behind it, given the marks that were passed over in reverse; one of
them keeps the later marks of its class off the letter, and every letter. -/
def joinMarks (letter : Char) (passed : List Char) : List Char → List Char
  | [] => letter :: passed.reverse
  | c :: rest =>
    let isFree := passed.head?.all (markClass · < markClass c)
    match if isFree then joined? letter c else none with
    | some made => joinMarks made passed rest
    | none =>
      if markClass c = 0 then letter :: passed.reverse ++ joinMarks c [] rest
      else joinMarks letter (c :: passed) rest

/-- The composed form of a text. -/
def composed (cs : List Char) : List Char :=
  match ordered (cs.flatMap decomposed) with
  | [] => []
  | first :: rest => joinMarks first [] rest

end MeshControl.Text
