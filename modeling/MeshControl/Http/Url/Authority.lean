import MeshControl.Http.Url.Host

/-!
# Users, hosts and ports

What stands between two slashes and the path: perhaps the name and the password of a user with an at
sign behind them, a host, and perhaps a colon and a port.  A user is sent in the head of a request and
not in its address; only a name or a password that is no text stays in the address.
-/

namespace MeshControl.Http.Url

open MeshControl.Text

/-- Whether characters stand for a text in percent form. -/
def isText (cs : List Char) : Bool :=
  (Utf8.decode? (percentDecode cs)).isSome

/-- The name and the password of a user. -/
structure User where
  name : List Char
  password : List Char
  deriving DecidableEq, Repr

namespace User

/-- The user before an at sign; the first colon begins the password. -/
def ofChars (cs : List Char) : User :=
  ⟨cs.takeWhile (· != ':'), (cs.dropWhile (· != ':')).drop 1⟩

/-- Whether there is neither a name nor a password. -/
def isEmpty (user : User) : Bool :=
  user.name.isEmpty && user.password.isEmpty

/-- Whether a user can be sent in the head of a request. -/
def goesToHead (user : User) : Bool :=
  isText user.name && (!user.name.isEmpty || isText user.password)

/-- A user as text, with the at sign. -/
def text (user : User) : List Char :=
  let password := if user.password.isEmpty then [] else ':' :: encodeUser user.password
  if user.isEmpty then [] else encodeUser user.name ++ password ++ ['@']

end User

/-- The user before the last at sign, and what follows it. -/
def readUser (kind : Kind) (cs : List Char) : Except UrlError (User × List Char) :=
  let authority := cs.takeWhile (!kind.isSlash ·)
  match splitFirst? '@' authority.reverse with
  | none => .ok (⟨[], []⟩, cs)
  | some (rest, before) =>
    if before.isEmpty ∧ rest.isEmpty then .error .emptyHost
    else .ok (User.ofChars before.reverse, cs.drop (before.length + 1))

/-- The host in front of a colon or a slash, and what follows it; a colon in brackets belongs to the
host. -/
def splitHost (kind : Kind) (inBrackets : Bool) : List Char → List Char × List Char
  | [] => ([], [])
  | c :: rest =>
    if kind.isSlash c || (c == ':' && !inBrackets) then ([], c :: rest)
    else
      let (host, rest) := splitHost kind (c == '[' || (inBrackets && c != ']')) rest
      (c :: host, rest)

/-- The port behind a host: nothing if it is left out or the one that the scheme implies. -/
def readPort (scheme : String) (cs : List Char) : Except UrlError (Option Nat) :=
  if cs.isEmpty then .ok none
  else
    match decimal? cs with
    | some n =>
      if n ≥ UInt16.size then .error .badPort
      else if impliedPort? scheme = some n then .ok none
      else .ok (some n)
    | none => .error .badPort

/-- The address of a user, a host and a port, and what follows them: a slash of any kind ends a
port.  A user or a port without a host is refused. -/
def readAuthority (scheme : String) (cs : List Char) : Except UrlError (Url × List Char) := do
  let kind := kind scheme
  let (user, cs) ← readUser kind cs
  let (name, rest) := splitHost kind false cs
  let host ← if kind = .other then readForeignHost name else readHost name
  if host.isEmpty && (rest.head? == some ':' || !user.isEmpty) then throw .emptyHost
  let isSlash := Kind.web.isSlash
  let (digits, rest) := match rest with
    | ':' :: rest => (rest.takeWhile (!isSlash ·), rest.dropWhile (!isSlash ·))
    | rest => ([], rest)
  let port? ← readPort scheme digits
  let user := if user.goesToHead then [] else user.text
  return (⟨scheme, user, host, port?, [], none, none⟩, rest)

end MeshControl.Http.Url
