import MeshControl.Daemon.Error
import MeshControl.Daemon.Reply
import MeshControl.Daemon.Snapshot.Wire
import MeshControl.Dialogue
import MeshControl.Http.Message

/-!
# Calling the daemon

One attempt at a call needs the secret, if the call changes anything, and the wire (`Link.Call`).  A
call that may be retried is attempted once more after a refused connection if the daemon was brought
back up in between (`Client.call`).  An attempt cannot ask for the daemon to be brought back up, since
that is no question of its kind, so what brings the daemon back may itself make attempts.
-/

namespace MeshControl.Daemon

open MeshControl.Http MeshControl.Json MeshControl.Text

/-! ### One attempt -/

namespace Link

/-- What an attempt asks. -/
inductive Call where
  | secret
  | send (request : Request)
  deriving Repr

/-- The kind of answer to a question. -/
abbrev Call.Answer : Call → Type
  | secret => Except SecretError Secret
  | send _ => Except Failure Http.Answer

/-- A dialogue of one attempt. -/
abbrev Asking (α : Type) := Dialogue Call Call.Answer α

/-- Asks for the secret. -/
def secret : Asking (Except SecretError Secret) :=
  Dialogue.query Call.secret

/-- Sends a request if it could be put together. -/
def send : Except Failure Request → Asking (Except Failure Answer)
  | .error failure => return .error failure
  | .ok request => Dialogue.query (Call.send request)

end Link

/-- The address of the daemon without slashes at its end. -/
structure BaseUrl where
  text : String
  deriving DecidableEq, Repr, Inhabited

namespace BaseUrl

/-- The base of a written address. -/
def ofText (s : String) : BaseUrl :=
  ⟨String.ofList (dropEndMarks '/' s.toList)⟩

/-- The address of a route. -/
def route (base : BaseUrl) (route : String) : String :=
  base.text ++ route

end BaseUrl

/-- The failure of an exchange as an error. -/
def exchangeError (url : String) : Failure → Error
  | .refused => .refused url
  | failure => .transport (failure.trace (Url.normalText url))

/-- What an answer says: its result, or the default if it reports success without one. -/
def readReply {α : Type} (decode? : Node → Option α) (default : α) (route : String)
    (answer : Answer) : Except Error α :=
  match (Node.ofText? (Utf8.decodeLossy answer.body)).bind (Reply.ofNode? decode?) with
  | none => .error (.undecodable route)
  | some reply =>
    if reply.isOk then .ok (reply.result?.getD default)
    else .error (.rejected reply.status reply.error)

/-- The result of an exchange about a route. -/
def exchangeResult {α : Type} (decode? : Node → Option α) (default : α) (base : BaseUrl)
    (route : String) : Except Failure Answer → Except Error α
  | .error failure => .error (exchangeError (base.route route) failure)
  | .ok answer => readReply decode? default route answer

/-- Attempts to read from a route. -/
def getOnce {α : Type} (decode? : Node → Option α) (default : α) (base : BaseUrl)
    (route : String) : Link.Asking (Except Error α) := do
  let answer ← Link.send (Request.build .get (base.route route) [] none .empty)
  return exchangeResult decode? default base route answer

/-- The fields that are sent: those of the call, and the secret as the last one. -/
def signed (fields : List (String × String)) (secret : Secret) : List (String × String) :=
  fields ++ [("secret", secret.text)]

/-- Attempts to post fields to a route. -/
def postOnce {α : Type} (decode? : Node → Option α) (default : α) (base : BaseUrl)
    (route : String) (fields : List (String × String)) : Link.Asking (Except Error α) := do
  match (← Link.secret : Except SecretError Secret) with
  | .error e => return .error (.secret e)
  | .ok secret =>
    let answer ← Link.send (Request.build .post (base.route route) [] none (.form (signed fields secret)))
    return exchangeResult decode? default base route answer

/-- Attempts to read the state of the daemon. -/
def statusOnce (base : BaseUrl) : Link.Asking (Except Error Snapshot) :=
  getOnce Snapshot.ofNode? {} base "/api/status"

/-! ### With recovery -/

namespace Client

/-- What a call asks: what its attempts ask, and whether the daemon could be brought back up. -/
inductive Call where
  | link (question : Link.Call)
  | recover
  deriving Repr

/-- The kind of answer to a question. -/
abbrev Call.Answer : Call → Type
  | link question => question.Answer
  | recover => Except Error Unit

/-- A dialogue of a call. -/
abbrev Asking (α : Type) := Dialogue Call Call.Answer α

/-- An attempt as a part of a call. -/
def onLink {α : Type} (d : Link.Asking α) : Asking α :=
  d.answerWith fun q => Dialogue.query (Call.link q)

/-- Asks for the daemon to be brought back up. -/
def recover : Asking (Except Error Unit) :=
  Dialogue.query Call.recover

end Client

/-- Who calls the daemon, and whether a daemon that is down can be brought back up. -/
structure Client where
  base : BaseUrl
  canRecover : Bool
  deriving DecidableEq, Repr

namespace Client

/-- Makes an attempt and, if it was refused and may be repeated, another one once the daemon is back
up. -/
def call {α : Type} (c : Client) (mayRetry : Bool) (attempt : Link.Asking (Except Error α)) :
    Asking (Except Error α) := do
  match ← onLink attempt with
  | .ok value => return .ok value
  | .error e =>
    if e.isRefused && mayRetry && c.canRecover then
      match (← recover : Except Error Unit) with
      | .ok () => onLink attempt
      | .error e => return .error e
    else return .error e

/-- Reads from a route. -/
def get {α : Type} (c : Client) (decode? : Node → Option α) (default : α) (route : String)
    (mayRetry : Bool) : Asking (Except Error α) :=
  c.call mayRetry (getOnce decode? default c.base route)

/-- Posts fields to a route. -/
def post {α : Type} (c : Client) (decode? : Node → Option α) (default : α) (route : String)
    (fields : List (String × String)) (mayRetry : Bool) : Asking (Except Error α) :=
  c.call mayRetry (postOnce decode? default c.base route fields)

/-- Reads the state of the daemon. -/
def status (c : Client) (mayRetry : Bool) : Asking (Except Error Snapshot) :=
  c.call mayRetry (statusOnce c.base)

end Client

end MeshControl.Daemon
