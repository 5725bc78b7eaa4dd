import MeshControl.Text.Blank
import MeshControl.Text.Letters

/-!
# Colours, status lines and tables on a terminal

Escape sequences colour a text and take no room: the visible width of a text is the number of its
characters outside of such sequences, a sequence being everything from the escape character to the
next ASCII letter.  Status lines and tables are aligned by visible width.
-/

namespace MeshControl.Terminal

open MeshControl.Text

/-- How a text is set off from the text around it. -/
inductive Style where
  | bold
  | dim
  | underline
  | red
  | green
  | yellow
  | cyan
  deriving DecidableEq, Repr

/-- The number of a style in its escape sequence. -/
def Style.code : Style → String
  | .bold => "1"
  | .dim => "2"
  | .underline => "4"
  | .red => "31"
  | .green => "32"
  | .yellow => "33"
  | .cyan => "36"

/-- A text in a style, with the plain style after it. -/
def Style.apply (style : Style) (s : String) : String :=
  "\x1b[" ++ style.code ++ "m" ++ s ++ "\x1b[0m"

/-- A text in bold. -/
def bold (s : String) : String := Style.bold.apply s

/-- A text in faint letters. -/
def dim (s : String) : String := Style.dim.apply s

/-- A text with a line below it. -/
def underline (s : String) : String := Style.underline.apply s

/-- The characters after an escape sequence, from behind its escape character. -/
def afterEscape : List Char → List Char
  | [] => []
  | c :: rest => if isAsciiLetter c then rest else afterEscape rest

theorem length_afterEscape_le (cs : List Char) : (afterEscape cs).length ≤ cs.length := by
  induction cs with
  | nil => simp [afterEscape]
  | cons c rest ih =>
    unfold afterEscape
    split
    · simp
    · simp; omega

/-- The characters outside of escape sequences. -/
def visible : List Char → List Char
  | [] => []
  | c :: rest => if c = '\x1b' then visible (afterEscape rest) else c :: visible rest
termination_by cs => cs.length
decreasing_by
  · have := length_afterEscape_le rest
    simp; omega
  · simp

/-- The number of characters outside of escape sequences. -/
def visibleWidth (s : String) : Nat :=
  (visible s.toList).length

/-! ### Status lines -/

/-- The mark at the beginning of a status line. -/
inductive Dot where
  | green
  | yellow
  | red
  | neutral
  deriving DecidableEq, Repr

namespace Dot

/-- A text in the colour of a mark. -/
def paint : Dot → String → String
  | .green, s => Style.green.apply s
  | .yellow, s => Style.yellow.apply s
  | .red, s => Style.red.apply s
  | .neutral, s => s

/-- The mark itself. -/
def mark : Dot → String
  | .neutral => dim "●"
  | dot => dot.paint "●"

end Dot

/-- So many spaces. -/
def spaces (n : Nat) : String :=
  String.ofList (List.replicate n ' ')

/-- The width of the column of names in status lines. -/
def nameWidth : Nat := 25

/-- A line with a mark, a name filled up to the width of its column, and a value. -/
def statusLine (dot : Dot) (name value : String) : String :=
  dot.mark ++ " " ++ name ++ ":" ++ spaces (nameWidth - visibleWidth name) ++ " " ++ dot.paint value

/-- A line with a mark and a remark on the lines before it. -/
def statusHelp (dot : Dot) (help : String) : String :=
  dot.mark ++ " " ++ dot.paint help

/-- The status line of a truth value. -/
def boolStatus (value : Bool) (name yes no : String) : String :=
  if value then statusLine .green name yes else statusLine .red name no

/-! ### Messages -/

/-- The line that reports a success. -/
def successLine (text : String) : String :=
  Style.green.apply "✔" ++ " " ++ text ++ "\n"

/-- The line that reports a failure. -/
def failureLine (text : String) : String :=
  Style.red.apply "✖" ++ " " ++ text ++ "\n"

/-- The line that tells what goes on. -/
def infoLine (text : String) : String :=
  Style.cyan.apply "ℹ" ++ " " ++ text ++ "\n"

/-- The line that warns. -/
def warningLine (text : String) : String :=
  Style.yellow.apply "!" ++ " " ++ text ++ "\n"

/-! ### Tables -/

/-- The widths of columns widened to hold the cells of a row; cells beyond the last column do not
count. -/
def widen : List Nat → List String → List Nat
  | w :: ws, cell :: cells => max w (visibleWidth cell) :: widen ws cells
  | ws, _ => ws

/-- The widths of the columns of a table. -/
def columnWidths (header : List String) (rows : List (List String)) : List Nat :=
  rows.foldl widen (header.map visibleWidth)

/-- A cell filled up to the width of its column. -/
def padded (cell : String) (width : Nat) : String :=
  cell ++ spaces (width - visibleWidth cell)

/-- A row before the blanks at its end are removed: its cells filled up, two spaces between columns,
cells beyond the last column left out. -/
def rowText (widths : List Nat) (cells : List String) : String :=
  "  ".intercalate (List.zipWith padded cells widths)

/-- A header in bold and rows below it, in columns. -/
def table (header : List String) (rows : List (List String)) : String :=
  let widths := columnWidths header rows
  "\n".intercalate ((header.map bold :: rows).map fun row => trimmedEnd (rowText widths row))

end MeshControl.Terminal
