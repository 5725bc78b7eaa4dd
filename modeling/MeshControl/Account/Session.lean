import MeshControl.Account.Error
import MeshControl.Dialogue

/-!
# Sessions with the account server

A session is a token.  It is kept between commands, opened by logging in when none is kept, and
renewed after each operation that succeeded, so that an active user never sees it end.  An operation
that the server refuses because of the session is tried once more with a session that has just been
opened, and never a third time.
-/

namespace MeshControl.Account

/-- Who logs in. -/
structure Credentials where
  username : String
  password : String
  deriving DecidableEq, Repr

namespace Session

/-- What a session asks. -/
inductive Call where
  /-- The kept token, if there is one. -/
  | load
  | save (token : String)
  /-- Who logs in. -/
  | credentials
  /-- A token for a user. -/
  | obtain (who : Credentials)
  /-- A new token for one that is valid. -/
  | renew (token : String)
  /-- Carry the operation out with a token. -/
  | perform (token : String)
  deriving Repr

/-- The kind of answer to a question, where the operation yields an `α`. -/
abbrev Call.Answer (α : Type) : Call → Type
  | load => Except TokenError (Option String)
  | save _ => Except TokenError Unit
  | credentials => Except Error Credentials
  | obtain _ | renew _ => Except Error String
  | perform _ => Except Error α

/-- A dialogue of a session in which the operation yields an `α`; it may fail. -/
abbrev Asking (α β : Type) := ExceptT Error (Dialogue Call (Call.Answer α)) β

variable {α : Type}

/-- Reads the kept token. -/
def load : Asking α (Option String) :=
  ExceptT.mk do return Except.mapError .token (← Dialogue.query Call.load)

/-- Keeps a token. -/
def save (token : String) : Asking α Unit :=
  ExceptT.mk do return Except.mapError .token (← Dialogue.query (Call.save token))

/-- A refusal to open a session. -/
def loginError : Error → Error
  | .server _ message => .loginFailed message
  | e => e

/-- Opens a session and keeps its token. -/
def login (who : Credentials) : Asking α String := do
  let token ← ExceptT.mk do return Except.mapError loginError (← Dialogue.query (Call.obtain who))
  save token
  return token

/-- Asks who logs in and opens a session. -/
def interactiveLogin : Asking α String := do
  let who ← ExceptT.mk (Dialogue.query Call.credentials)
  login who

/-- The kept token, or that of a session opened for it. -/
def token : Asking α String := do
  match ← load with
  | some token => return token
  | none => interactiveLogin

/-- Renews a session and keeps the new token; a failure changes nothing. -/
def renew (token : String) : Dialogue Call (Call.Answer α) Unit := do
  match (← Dialogue.query (Call.renew token) : Except Error String) with
  | .error _ => return ()
  | .ok renewed => let _ : Except TokenError Unit ← Dialogue.query (Call.save renewed)

/-- An error of the operation that is not about the session. -/
def operationError : Error → Error
  | .server _ message => .unknown message
  | e => e

/-- Carries the operation out with a token, and again after a login as often as allowed. -/
def perform (token : String) (logins : Nat) : Asking α α :=
  ExceptT.mk do
    match (← Dialogue.query (Call.perform token) : Except Error α) with
    | .ok value =>
      renew token
      return .ok value
    | .error e =>
      if e.kind = .other then return .error (operationError e)
      else
        match logins with
        | 0 => return .error .stillRejected
        | logins + 1 =>
          ExceptT.run do
            let token ← interactiveLogin
            perform token logins

/-- Carries the operation out in a session, which is opened again once if need be. -/
def call : Asking α α := do
  perform (← token) 1

end Session

end MeshControl.Account
