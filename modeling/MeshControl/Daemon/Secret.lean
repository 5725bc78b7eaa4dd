import MeshControl.Files.Call
import MeshControl.Text.Blank
import MeshControl.Text.Search

/-!
# The daemon's secret

Whoever changes the daemon's state has to know its secret.  A secret from the configuration that is
not empty stands as it is; otherwise the secret is what the daemon's secret file holds, without the
blanks around it.
-/

namespace MeshControl.Daemon

open MeshControl.Text

/-- The secret of the daemon: never an empty text. -/
structure Secret where
  text : String
  nonempty : text.isEmpty = false
  deriving DecidableEq

namespace Secret

/-- Where the daemon keeps its secret. -/
def standardPath : String := "/var/lib/husarnet/daemon_api_token"

/-- A text as a secret. -/
def ofText? (text : String) : Option Secret :=
  if h : text.isEmpty = false then some ⟨text, h⟩ else none

/-- What may be shown of a secret: how many bytes it has. -/
def redacted (s : Secret) : String :=
  "ApiSecret(<" ++ toString s.text.utf8ByteSize ++ " bytes>)"

end Secret

/-- Why there is no secret. -/
inductive SecretError where
  | unreadable (path : String) (cause : Files.Error)
  | empty (path : String)
  deriving DecidableEq, Repr

namespace SecretError

/-- The message of an error. -/
def message : SecretError → String
  | unreadable path cause =>
    "error reading daemon API secret from " ++ path ++ ", are you root/administrator? ("
      ++ cause.message ++ ")"
  | empty path => "daemon API secret file " ++ path ++ " is empty"

/-- The messages of the causes of an error. -/
def causes : SecretError → List String
  | unreadable _ cause => [cause.message]
  | empty _ => []

end SecretError

namespace Secret

/-- The secret that the text of a secret file holds. -/
def ofFile (path : String) : Except Files.Error String → Except SecretError Secret
  | .error cause => .error (.unreadable path cause)
  | .ok text =>
    match ofText? (trimmed text) with
    | some secret => .ok secret
    | none => .error (.empty path)

/-- The secret: the given one if it is not empty, otherwise the one in the file. -/
def resolve (given? : Option String) (path : String) : Files.Asking (Except SecretError Secret) :=
  match given?.bind ofText? with
  | some secret => return .ok secret
  | none => do return ofFile path (← Files.readText path)

end Secret

end MeshControl.Daemon
