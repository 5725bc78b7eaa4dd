import MeshControl.Files.Call
import MeshControl.Text.Letters
import MeshControl.Text.Search
import MeshControl.Trace

/-!
# Why an account operation fails

The causes of failure and their messages.  `Error.kind` sorts them by what helps: a session that the
account server no longer knows (`expired` or `invalid`, told by the server's words, in any case of
letters) is mended by logging in again, and nothing else is.
-/

namespace MeshControl.Account

open MeshControl.Text

/-- Why the kept token cannot be read or changed. -/
inductive TokenError where
  | unreadable (path : String) (cause : Files.Error)
  | unwritable (path : String) (cause : Files.Error)
  deriving DecidableEq, Repr

namespace TokenError

/-- The reason that was given by the files. -/
def cause : TokenError → Files.Error
  | unreadable _ cause | unwritable _ cause => cause

/-- The message of an error. -/
def message : TokenError → String
  | unreadable path cause =>
    "unable to read the token cache at " ++ path ++ ": " ++ cause.message
      ++ " (check the file owner; was it created with sudo?)"
  | unwritable path cause =>
    "unable to save the token cache at " ++ path ++ ": " ++ cause.message
      ++ " (check the directory permissions; was it created with sudo?)"

end TokenError

/-- Why an account operation failed. -/
inductive Error where
  /-- The account server answered with an error. -/
  | server (url message : String)
  | transport (url : String) (cause : Trace)
  | undecodable (url detail : String)
  | loginFailed (reason : String)
  /-- An error of the account server that is not about the session. -/
  | unknown (message : String)
  /-- The account server refused a session that had just been opened. -/
  | stillRejected
  /-- A login is needed, but nobody is to be asked. -/
  | nonInteractive
  | prompt (cause : String)
  | token (cause : TokenError)
  deriving DecidableEq, Repr

/-- What an error says about the session. -/
inductive ErrorKind where
  | expired
  | invalid
  | other
  deriving DecidableEq, Repr

namespace Error

/-- The message of an error. -/
def message : Error → String
  | server url message => "GraphQL server at " ++ url ++ " returned an error: " ++ message
  | transport url cause => "request to " ++ url ++ " failed: " ++ cause.message
  | undecodable url detail => "unexpected response from " ++ url ++ ": " ++ detail
  | loginFailed reason => "authentication failed: " ++ reason
  | unknown message => "fatal: unknown error from the server: " ++ message
  | stillRejected => "the server rejected the session again right after logging in; giving up"
  | nonInteractive =>
    "dashboard credentials are required but input is disabled (non-interactive mode); run "
      ++ commandName ++ " first"
  | prompt cause => "unable to read credentials: " ++ cause
  | token cause => cause.message
where
  /-- The command that logs in, between backquotes. -/
  commandName : String := "\x60hnet dashboard login\x60"

/-- The messages of the causes of an error. -/
def causes : Error → List String
  | transport _ cause => cause.message :: cause.causes
  | prompt cause => [cause]
  | token cause => [cause.cause.message]
  | server _ _ | undecodable _ _ | loginFailed _ | unknown _ | stillRejected | nonInteractive => []

/-- What the user is told of an error. -/
def trace (e : Error) : Trace :=
  ⟨e.message, e.causes⟩

/-- What the words of the account server say about the session. -/
def kindOfMessage (message : String) : ErrorKind :=
  let message := lowered message
  if contains message "signature has expired" then .expired
  else if contains message "error decoding signature"
      || contains message "signature decoding error" then .invalid
  else .other

/-- What an error says about the session: only the account server's own errors say anything. -/
def kind : Error → ErrorKind
  | server _ message => kindOfMessage message
  | _ => .other

end Error

end MeshControl.Account
