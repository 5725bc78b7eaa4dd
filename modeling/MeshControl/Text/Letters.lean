import MeshControl.Text.CasingTable
import MeshControl.Text.LetterTable

/-!
# Capital and small letters

The case mappings of single characters (`upper`, `lower`) and the two letter properties, read off
the tables of `MeshControl.Text.LetterTable`.  A mapping may yield several characters.  The small
form of a text is that of its characters one after another, but for the capital sigma: it has two
small forms, one of them for the end of a word.
-/

namespace MeshControl.Text

/-- The property `Uppercase`. -/
def isUpper (c : Char) : Bool :=
  onRun uppercaseRuns c.toNat

/-- The property `Lowercase`. -/
def isLower (c : Char) : Bool :=
  onRun lowercaseRuns c.toNat

/-- The form of a character under a case mapping given by runs and expansions. -/
def mapCase (runs : List MappedRun) (expansions : List (Nat × List Nat)) (c : Char) : List Char :=
  match expansions.lookup c.toNat with
  | some codes => codes.map Char.ofNat
  | none => [((moved? runs c.toNat).map Char.ofNat).getD c]

/-- The capital form of a character. -/
def upper (c : Char) : List Char :=
  mapCase upperRuns upperExpansions c

/-- The small form of a character. -/
def lower (c : Char) : List Char :=
  mapCase lowerRuns lowerExpansions c

/-- The property `Cased`. -/
def isCased (c : Char) : Bool :=
  isUpper c || isLower c || onRun titlecaseRuns c.toNat

/-- The property `Case_Ignorable`. -/
def isCaseIgnorable (c : Char) : Bool :=
  onRun caseIgnorableRuns c.toNat

/-- Whether the first character that is not passed over is a cased letter. -/
def meetsCased (cs : List Char) : Bool :=
  (cs.find? (!isCaseIgnorable ·)).any isCased

/-- The small form of a character among others, those before it in reverse: a sigma behind a letter
and before none has the form for the end of a word. -/
def lowerAmong (before : List Char) (c : Char) (after : List Char) : List Char :=
  if c = 'Σ' then [if meetsCased before && !meetsCased after then 'ς' else 'σ'] else lower c

/-- The small forms of characters, given those before them in reverse. -/
def lowerChars (before : List Char) : List Char → List Char
  | [] => []
  | c :: rest => lowerAmong before c rest ++ lowerChars (c :: before) rest

/-- The small form of a text. -/
def lowered (s : String) : String :=
  String.ofList (lowerChars [] s.toList)

/-- A text whose ASCII capitals are made small. -/
def asciiLowered (s : String) : String :=
  String.ofList (s.toList.map Char.toLower)

/-- Whether two texts agree but for the case of ASCII letters. -/
def sameIgnoringAsciiCase (a b : String) : Bool :=
  asciiLowered a == asciiLowered b

/-- Whether a character is one of the ten ASCII digits. -/
def isAsciiDigit (c : Char) : Bool :=
  '0' ≤ c && c ≤ '9'

/-- Whether a character is one of the 52 ASCII letters. -/
def isAsciiLetter (c : Char) : Bool :=
  ('a' ≤ c && c ≤ 'z') || ('A' ≤ c && c ≤ 'Z')

end MeshControl.Text
