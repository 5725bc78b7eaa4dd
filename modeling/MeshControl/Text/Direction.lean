import MeshControl.Text.DirectionTable
import MeshControl.Text.Marks

/-!
# Directions of writing

Latin runs from left to right, Hebrew and Arabic from right to left, and a text that mixes them may
show as another text.  `isOneWay` tells the texts that keep their order wherever they stand: they
begin with a letter, hold letters of its direction only, and end in a letter or a number.
-/

namespace MeshControl.Text

/-- The direction of a character. -/
inductive Direction where
  | leftToRight
  | rightToLeft
  | arabicNumber
  | europeanNumber
  /-- That of the character before it. -/
  | mark
  /-- That of the characters around it. -/
  | neutral
  deriving DecidableEq, Repr

/-- The direction of a character that is neither a control nor a separator. -/
def direction (c : Char) : Direction :=
  let code := c.toNat
  if isNonspacingMark c && !onRun letterlikeMarkRuns code then .mark
  else if onRun arabicNumberRuns code then .arabicNumber
  else if onRun europeanNumberRuns code then .europeanNumber
  else if onRun neutralRuns code then .neutral
  else if onRun rightToLeftRuns code then .rightToLeft
  else .leftToRight

/-- Whether a text has something of a writing system that runs from right to left. -/
def hasRightToLeft (cs : List Char) : Bool :=
  cs.any fun c => direction c == .rightToLeft || direction c == .arabicNumber

/-- Whether a text runs one way only: from left to right without anything from right to left, or from
right to left without letters from left to right and with numbers of one kind.  Marks at the end do
not count. -/
def isOneWay (cs : List Char) : Bool :=
  let all := cs.map direction
  let last? := all.reverse.find? (· != .mark)
  match all with
  | [] => true
  | .leftToRight :: _ =>
    !all.contains .rightToLeft && !all.contains .arabicNumber
      && (last? == some .leftToRight || last? == some .europeanNumber)
  | .rightToLeft :: _ =>
    !all.contains .leftToRight && !(all.contains .europeanNumber && all.contains .arabicNumber)
      && last? != some .neutral
  | _ => false

end MeshControl.Text
