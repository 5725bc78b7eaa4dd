/-!
# Searching and splitting texts

Small questions about characters in a row, each by recursion on the row: whether one text occurs in
another, what stands before and after a mark, and what is left when a mark is taken from an end as
often as it stands there.
-/

namespace MeshControl.Text

/-- Whether `needle` stands somewhere in `text`. -/
def occursIn (needle : List Char) : List Char → Bool
  | [] => needle.isEmpty
  | c :: rest => needle.isPrefixOf (c :: rest) || occursIn needle rest

/-- Whether `needle` stands somewhere in `text`. -/
def contains (text needle : String) : Bool :=
  occursIn needle.toList text.toList

/-- Whether a text begins with another. -/
def startsWith (text start : String) : Bool :=
  start.toList.isPrefixOf text.toList

/-- Whether a text ends with another. -/
def endsWith (text tail : String) : Bool :=
  tail.toList.isSuffixOf text.toList

/-- What stands before the first `mark` and what stands after it; `none` if there is no `mark`. -/
def splitFirst? (mark : Char) : List Char → Option (List Char × List Char)
  | [] => none
  | c :: rest =>
    if c = mark then some ([], rest)
    else (splitFirst? mark rest).map fun (before, after) => (c :: before, after)

/-- The characters after `start`, taken off as long as the text begins with it. -/
def dropAll (start : List Char) (text : List Char) : List Char :=
  if _h : start ≠ [] ∧ start.isPrefixOf text = true then
    dropAll start (text.drop start.length)
  else text
termination_by text.length
decreasing_by
  have : start.length ≤ text.length := by
    obtain ⟨_, hp⟩ := _h
    exact (List.isPrefixOf_iff_prefix.1 hp).length_le
  have : 0 < start.length := List.length_pos_iff.2 _h.1
  simp; omega

/-- A text without the marks at its end. -/
def dropEndMarks (mark : Char) (text : List Char) : List Char :=
  (text.reverse.dropWhile (· == mark)).reverse

/-- Texts written one after another with `mark` between neighbours. -/
def joined (mark : String) (parts : List String) : String :=
  mark.intercalate parts

end MeshControl.Text
