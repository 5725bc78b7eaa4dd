import MeshControl.Http.Url.NameTable
import MeshControl.Text.Composed
import MeshControl.Text.Direction
import MeshControl.Text.Joining
import MeshControl.Text.Letters
import MeshControl.Text.Punycode

/-!
# Names of hosts

A name is a row of labels with full stops between them.  It may be written in any characters: each
stands for some in small letters (`form?`), and the whole is composed.  A label beyond ASCII goes by
its written form, which begins with `xn--` and holds ASCII letters only (`writtenLabel`); a label that
is written so already has to be the written form of a text that could have been written plainly.

Labels that cannot be told from others by sight are refused: those that begin with a mark, those with
a joiner that does not show, and in a name with anything that runs from right to left those that do
not run one way.
-/

namespace MeshControl.Http.Url

open MeshControl.Text

/-- The text for which a character stands as one of a few neighbours. -/
def formText? (c : Char) : Option (List Char) :=
  match (formTexts.takeWhile (·.1 ≤ c.toNat)).getLast? with
  | some (first, texts) => (texts.toList.splitOn ' ')[c.toNat - first]?
  | none => none

/-- Whether no name holds a character: one without ink, but for joiners, or one of a few others. -/
def isRefused (c : Char) : Bool :=
  onRun refusedRuns c.toNat || (onRun inklessRuns c.toNat && !isJoiner c)

/-- The text for which a character stands in a name, if a name may hold it. -/
def form? (c : Char) : Option (List Char) :=
  if onRun ignoredRuns c.toNat then some []
  else
    match moved? formRuns c.toNat, formText? c with
    | some code, _ => some [Char.ofNat code]
    | none, some text => some text
    | none, none =>
      if isRefused c then none
      else if onRun keptRuns c.toNat then some [c]
      else some (lower c)

/-- The text that a label means: what its ASCII letters stand for, or the label itself. -/
def meantLabel? (label : List Char) : Option (List Char) :=
  match label with
  | 'x' :: 'n' :: '-' :: '-' :: written =>
    if written.isEmpty || written.getLast? == some '-' || 2000 < written.length then none
    else (Punycode.decode? written).filter fun meant =>
      meant.all (fun c => form? c == some [c]) && composed meant == meant
  | label => some label

/-- A label in ASCII, given what it means. -/
def writtenLabel (meant : List Char) : List Char :=
  if meant.all Punycode.isAscii then meant else "xn--".toList ++ Punycode.encode meant

/-- Whether a label can be told from others by sight, given what it means. -/
def isPlainLabel (meant : List Char) : Bool :=
  !meant.head?.any isMark && showsJoiners [] meant
    && (meant.all Punycode.isAscii || meant.length ≤ 1000)

/-- A name in ASCII. -/
def readName? (cs : List Char) : Option (List Char) := do
  let forms ← cs.mapM form?
  let labels ← ((composed forms.flatten).splitOn '.').mapM meantLabel?
  if labels.all isPlainLabel && (!labels.any hasRightToLeft || labels.all isOneWay) then
    return ['.'].intercalate (labels.map writtenLabel)
  else none

end MeshControl.Http.Url
