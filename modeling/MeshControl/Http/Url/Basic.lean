import MeshControl.Text.Percent

/-!
# What addresses are made of

The address of a resource, why a text is none, and its path in normal form: segments of one dot are
left out, segments of two dots take the segment before them away unless it names a drive, and each
character that may not stand for itself is written in percent form (a percent sign that is there
already is left alone).  What separates segments and what may stand for itself depends on the kind of
the scheme.
-/

namespace MeshControl.Http

open MeshControl.Text

/-- The address of a resource. -/
structure Url where
  scheme : String
  /-- The name and the password of a user with the at sign behind them, in percent form. -/
  user : List Char
  host : String
  port? : Option Nat
  /-- The segments of the path, each in percent form. -/
  segments : List (List Char)
  query? : Option (List Char)
  fragment? : Option (List Char)
  deriving DecidableEq, Repr

/-- Why a text is not an address. -/
inductive UrlError where
  | relative
  | emptyHost
  | badHost
  /-- The host of an address of a scheme of its own cannot be named so. -/
  | badForeignHost
  | badV4
  | badV6
  | badPort
  /-- An address without a host, in normal form. -/
  | noHost (text : String)
  deriving DecidableEq, Repr

namespace UrlError

/-- The message of an error. -/
def message : UrlError → String
  | relative => "relative URL without a base"
  | emptyHost => "empty host"
  | badHost => "invalid international domain name"
  | badForeignHost => "invalid domain character"
  | badV4 => "invalid IPv4 address"
  | badV6 => "invalid IPv6 address"
  | badPort => "invalid port number"
  | noHost _ => "URL scheme is not allowed"

/-- The address that an error is about, if it could be read. -/
def text? : UrlError → Option String
  | noHost text => some text
  | _ => none

end UrlError

namespace Url

/-! ### Schemes -/

/-- What follows a scheme. -/
inductive Kind where
  /-- A host, and a path on it. -/
  | web
  /-- The path of a file, perhaps on a host. -/
  | file
  /-- A host if there are two slashes, and a path or any text. -/
  | other
  deriving DecidableEq, Repr

/-- The port that a scheme of the web implies. -/
def impliedPort? (scheme : String) : Option Nat :=
  [("http", 80), ("https", 443), ("ws", 80), ("wss", 443), ("ftp", 21)].lookup scheme

/-- The kind of a scheme. -/
def kind (scheme : String) : Kind :=
  if (impliedPort? scheme).isSome then .web else if scheme = "file" then .file else .other

/-- Whether a character separates segments. -/
def Kind.isSlash : Kind → Char → Bool
  | .other, c => c == '/'
  | _, c => c == '/' || c == '\\'

/-! ### Percent form -/

/-- The bytes of ASCII that are neither controls nor one of some others. -/
def keeps (others : List Char) (b : UInt8) : Bool :=
  0x20 ≤ b.toNat && b.toNat < 0x7F && !others.contains (Char.ofNat b.toNat)

/-- What stands for itself in no segment of a path. -/
def offPath : List Char :=
  [' ', '"', '#', '<', '>', '?', Char.ofNat 0x60, '\x7b', '\x7d']

/-- A segment of a path in percent form. -/
def encodeSegment (cs : List Char) : List Char :=
  percentEncode (keeps offPath) (String.ofList cs)

/-- The name or the password of a user in percent form. -/
def encodeUser (cs : List Char) : List Char :=
  percentEncode (keeps (offPath ++ ['/', ':', ';', '=', '@', '[', '\\', ']', '^', '|']))
    (String.ofList cs)

/-- A query in percent form; a scheme of its own keeps the apostrophe. -/
def Kind.encodeQuery (kind : Kind) (cs : List Char) : List Char :=
  let others := if kind = .other then [] else ['\'']
  percentEncode (keeps ([' ', '"', '#', '<', '>'] ++ others)) (String.ofList cs)

/-- A text in which only controls and characters beyond ASCII are in percent form. -/
def encodeControls (cs : List Char) : List Char :=
  percentEncode (keeps []) (String.ofList cs)

/-- A fragment in percent form. -/
def encodeFragment (cs : List Char) : List Char :=
  percentEncode (keeps [' ', '"', '<', '>', Char.ofNat 0x60]) (String.ofList cs)

/-! ### The path -/

/-- A segment in small letters in which a dot in percent form is a dot. -/
def plainDots : List Char → List Char
  | '%' :: '2' :: 'e' :: rest => '.' :: plainDots rest
  | '%' :: '2' :: 'E' :: rest => '.' :: plainDots rest
  | c :: rest => c :: plainDots rest
  | [] => []

/-- Whether a segment stands for the place it is in. -/
def isHere (segment : List Char) : Bool :=
  plainDots segment == ['.']

/-- Whether a segment stands for the place above. -/
def isAbove (segment : List Char) : Bool :=
  plainDots segment == ['.', '.']

/-- Whether a segment names a drive: a letter and a colon or a bar. -/
def isDrive : List Char → Bool
  | [letter, mark] => letter.isAlpha && (mark == ':' || mark == '|')
  | _ => false

/-- The place above the segments of a path, which stand in reverse order; above a drive there is only
the drive itself. -/
def above : List (List Char) → List (List Char)
  | [] => []
  | last :: before => if isDrive last then last :: before else before

/-- A segment behind others, in percent form; a drive at the top of the path of a file has a colon. -/
def Kind.segment (kind : Kind) (before : List (List Char)) (segment : List Char) : List Char :=
  if kind = .file ∧ before.isEmpty ∧ isDrive segment then segment.take 1 ++ [':']
  else encodeSegment segment

/-- The segments of a path in normal form, given those before them in reverse order.  A path that ends
in dots ends in a slash. -/
def Kind.normalize (kind : Kind) (before : List (List Char)) : List (List Char) → List (List Char)
  | [] => before.reverse
  | [last] =>
    if isAbove last then ([] :: above before).reverse
    else if isHere last then ([] :: before).reverse
    else (kind.segment before last :: before).reverse
  | segment :: rest =>
    if isAbove segment then kind.normalize (above before) rest
    else if isHere segment then kind.normalize before rest
    else kind.normalize (kind.segment before segment :: before) rest

/-- The segments of a path. -/
def Kind.segments (kind : Kind) (path : List Char) : List (List Char) :=
  kind.normalize [] (path.splitOnP kind.isSlash)

/-- The segments of a path from the top, with a slash before it or none. -/
def Kind.segmentsFromTop (kind : Kind) (path : List Char) : List (List Char) :=
  kind.segments (if path.head?.any kind.isSlash then path.drop 1 else path)

/-- The segments of a path as text. -/
def pathText (segments : List (List Char)) : List Char :=
  segments.flatMap fun segment => '/' :: segment

end Url

end MeshControl.Http
