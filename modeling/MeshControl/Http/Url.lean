import MeshControl.Http.Url.Authority

/-!
# Addresses of resources

An address is read as browsers read it: blanks and controls around it and tabs and line breaks in it
are dropped, and a backslash is a slash, but for schemes of their own.  An address without a host is
brought into normal form as well, but as text that a message can show (`UrlError.noHost`).
-/

namespace MeshControl.Http.Url

open MeshControl.Text

/-- The characters of an address that count: none of the controls and blanks around it, and no tab or
line break in it. -/
def cleaned (cs : List Char) : List Char :=
  let isEdge (c : Char) : Bool := c.toNat ≤ 0x20
  ((cs.dropWhile isEdge).reverse.dropWhile isEdge).reverse.filter
    fun c => c ≠ '\t' && c ≠ '\n' && c ≠ '\r'

/-- The scheme in front of a colon, and what follows the colon. -/
def scheme? (cs : List Char) : Option (String × List Char) :=
  match splitFirst? ':' cs with
  | some (name, rest) =>
    let isFirst (c : Char) : Bool := c.isAlpha
    let isLater (c : Char) : Bool := c.isAlphanum || c == '+' || c == '-' || c == '.'
    match name with
    | c :: cs =>
      if isFirst c && cs.all isLater then some (String.ofList (name.map Char.toLower), rest) else none
    | [] => none
  | none => none

/-- The text before a query and a fragment, the query and the fragment. -/
def splitEnds (cs : List Char) : List Char × Option (List Char) × Option (List Char) :=
  let (cs, fragment?) := match splitFirst? '#' cs with
    | some (before, after) => (before, some after)
    | none => (cs, none)
  match splitFirst? '?' cs with
  | some (before, after) => (before, some after, fragment?)
  | none => (cs, none, fragment?)

/-- The port of an address as text. -/
def portText (port? : Option Nat) : String :=
  (port?.map fun p => ":" ++ toString p).getD ""

/-- The query of an address as text. -/
def queryText (query? : Option (List Char)) : String :=
  String.ofList ((query?.map ('?' :: ·)).getD [])

/-- The fragment of an address as text. -/
def fragmentText (fragment? : Option (List Char)) : String :=
  String.ofList ((fragment?.map ('#' :: ·)).getD [])

/-- The address with fields added to its query. -/
def withFields (url : Url) (fields : List (String × String)) : Url :=
  let added := (Form.encode fields).toList
  let query := match url.query? with
    | some (c :: cs) => c :: cs ++ '&' :: added
    | _ => added
  { url with query? := if query.isEmpty then none else some query }

/-- The path and the query of an address, as a request names them. -/
def target (url : Url) : String :=
  String.ofList (pathText url.segments) ++ queryText url.query?

/-- An address as text. -/
def text (url : Url) : String :=
  url.scheme ++ "://" ++ String.ofList url.user ++ url.host ++ portText url.port? ++ url.target
    ++ fragmentText url.fragment?

/-- The address of a scheme of the web, given what follows the colon. -/
def readWeb (scheme : String) (rest : List Char) : Except UrlError Url := do
  let (url, path) ← readAuthority scheme (rest.dropWhile Kind.web.isSlash)
  return { url with segments := Kind.web.segmentsFromTop path }

/-- The host and the segments of the path of a file, given what follows the colon.  A host stands
behind two slashes; a drive is no host, and no host has drives. -/
def readFilePlace (rest : List Char) : Except UrlError (String × List (List Char)) := do
  let isSlash := Kind.file.isSlash
  match rest with
  | a :: b :: rest =>
    if isSlash a && isSlash b then
      let name := rest.takeWhile (!isSlash ·)
      let path := rest.dropWhile (!isSlash ·)
      if isDrive name then return ("", Kind.file.segments rest)
      let host ← if name.isEmpty then pure "" else readHost name
      if host = "" ∨ host = "localhost" then return ("", Kind.file.segments path)
      let segments := Kind.file.segmentsFromTop path
      return (if segments.head?.any isDrive then "" else host, segments)
    else return ("", Kind.file.segmentsFromTop (a :: b :: rest))
  | rest => return ("", Kind.file.segmentsFromTop rest)

/-- The address of a file, given what follows the colon; slashes at the top of the path count as one.
-/
def readFile (rest : List Char) : Except UrlError Url := do
  let (host, segments) ← readFilePlace rest
  let segments := segments.dropWhile List.isEmpty
  let url : Url := ⟨"file", [], host, none, if segments.isEmpty then [[]] else segments, none, none⟩
  if host.isEmpty then throw (.noHost url.text) else return url

/-- The address of a scheme of its own, given what follows the colon: a host behind two slashes, a
path from the top, or any text.  A path that begins with two slashes has a dot between them, so that
it is not read as a host. -/
def readOther (scheme : String) (rest : List Char) : Except UrlError Url := do
  match rest with
  | '/' :: '/' :: rest => do
    let (url, path) ← readAuthority scheme rest
    let url := { url with
      segments := if path.isEmpty then [] else Kind.other.segmentsFromTop path }
    if url.host.isEmpty then throw (.noHost url.text) else return url
  | '/' :: rest =>
    let path := pathText (Kind.other.segments rest)
    let path := if path.take 2 = ['/', '/'] then '/' :: '.' :: path else path
    throw (.noHost (scheme ++ ":" ++ String.ofList path))
  | rest => throw (.noHost (scheme ++ ":" ++ String.ofList (encodeControls rest)))

/-- The address that a text writes. -/
def read (text : String) : Except UrlError Url :=
  match scheme? (cleaned text.toList) with
  | none => .error .relative
  | some (scheme, rest) =>
    let (place, query?, fragment?) := splitEnds rest
    let query? := query?.map (kind scheme).encodeQuery
    let fragment? := fragment?.map encodeFragment
    let read := match kind scheme with
      | .web => readWeb scheme place
      | .file => readFile place
      | .other => readOther scheme place
    match read with
    | .ok url => .ok { url with query? := query?, fragment? := fragment? }
    | .error (.noHost text) => .error (.noHost (text ++ queryText query? ++ fragmentText fragment?))
    | .error e => .error e

/-- A written address in normal form, and as it is if it cannot be read. -/
def normalText (written : String) : String :=
  match read written with
  | .ok url => url.text
  | .error _ => written

end MeshControl.Http.Url
