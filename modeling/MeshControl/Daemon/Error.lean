import MeshControl.Daemon.Secret
import MeshControl.Trace

/-!
# Why a call to the daemon fails

The causes of failure and their messages.  Only a refused connection can be mended by bringing the
daemon back up, so it is kept apart from every other broken exchange.
-/

namespace MeshControl.Daemon

/-- Why a call to the daemon failed. -/
inductive Error where
  /-- Nobody listens at the daemon's address. -/
  | refused (url : String)
  /-- The exchange failed. -/
  | transport (cause : Trace)
  /-- The answer is not of the form that the route promises. -/
  | undecodable (route : String)
  /-- The daemon answered that it did not do what it was asked. -/
  | rejected (status error : String)
  | secret (cause : SecretError)
  /-- The daemon is down and was not to be restarted. -/
  | declined
  /-- The daemon is down and could not be brought back. -/
  | unrecovered (cause : Trace)
  deriving DecidableEq, Repr

namespace Error

/-- The message of an answer that cannot be decoded. -/
def formMessage : String := "the text is not of the expected form"

/-- The message of an error. -/
def message : Error → String
  | refused url =>
    "daemon refused the connection at " ++ url
      ++ "; make sure it is running before trying again"
  | transport cause => "request to the daemon failed: " ++ cause.message
  | undecodable route => "unable to decode daemon response from " ++ route ++ ": " ++ formMessage
  | rejected status error => "response status: " ++ status ++ ", error: " ++ error
  | secret cause => cause.message
  | declined => "the daemon is not running and it was not restarted"
  | unrecovered cause => "unable to bring the daemon back up: " ++ cause.oneLine

/-- The messages of the causes of an error. -/
def causes : Error → List String
  | transport cause => cause.message :: cause.causes
  | undecodable _ => [formMessage]
  | secret cause => cause.causes
  | refused _ | rejected _ _ | declined | unrecovered _ => []

/-- What the user is told of an error. -/
def trace (e : Error) : Trace :=
  ⟨e.message, e.causes⟩

/-- Whether nobody listens at the daemon's address. -/
def isRefused : Error → Bool
  | refused _ => true
  | _ => false

end Error

end MeshControl.Daemon
