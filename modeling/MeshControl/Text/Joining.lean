import MeshControl.Text.JoiningTable
import MeshControl.Text.Marks

/-!
# Joiners

Two characters without ink say whether the letters around them are joined: the joiner U+200D and the
non-joiner U+200C.  They make a difference behind a virama, and the non-joiner also between two
letters that would join without it; anywhere else they cannot be seen.
-/

namespace MeshControl.Text

/-- Whether a character is the joiner or the non-joiner. -/
def isJoiner (c : Char) : Bool :=
  c.toNat == 0x200C || c.toNat == 0x200D

/-- Whether a character is a virama, which takes the vowel from the consonant before it. -/
def isVirama (c : Char) : Bool :=
  markClass c == 9

/-- Whether letters join through a character. -/
def isTransparent (c : Char) : Bool :=
  isNonspacingMark c || c.toNat == 0x1E94B

/-- Whether a letter joins the letter behind it. -/
def joinsNext (c : Char) : Bool :=
  onRun dualJoiningRuns c.toNat || onRun leftJoiningRuns c.toNat

/-- Whether a letter joins the letter before it. -/
def joinsPrevious (c : Char) : Bool :=
  onRun dualJoiningRuns c.toNat || onRun rightJoiningRuns c.toNat

/-- Whether every joiner in a text can be seen, given the text before it in reverse. -/
def showsJoiners (before : List Char) : List Char → Bool
  | [] => true
  | c :: rest =>
    let breaks := c.toNat == 0x200C && (before.find? (!isTransparent ·)).any joinsNext
      && (rest.find? (!isTransparent ·)).any joinsPrevious
    (!isJoiner c || before.head?.any isVirama || breaks) && showsJoiners (c :: before) rest

end MeshControl.Text
