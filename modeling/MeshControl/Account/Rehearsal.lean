import MeshControl.Account.Session
import MeshControl.Script

/-!
# Sessions in memory

The surroundings of a session without a machine: a token that is kept in memory, and a script for each
collaborator.  A collaborator whose script is empty is stood in for by an issuer of tokens, if there is
one: it gives a new token to everyone who logs in and to everyone who shows a token that it issued, and
carries operations out for those alone.
-/

namespace MeshControl.Account

/-- Who issues tokens. -/
structure Issuer where
  /-- The tokens that are valid. -/
  issued : List String := []
  /-- The number of tokens issued so far. -/
  count : Nat := 0
  deriving DecidableEq, Repr

namespace Issuer

/-- Issues a token. -/
def issue (i : Issuer) : String × Issuer :=
  let token := "token-" ++ toString i.count
  (token, ⟨token :: i.issued, i.count + 1⟩)

/-- Whether a token is valid. -/
def accepts (i : Issuer) (token : String) : Bool :=
  i.issued.contains token

end Issuer

/-- The surroundings of a session in memory, where operations yield an `α`. -/
structure Rehearsal (α : Type) where
  /-- The address that errors name. -/
  url : String
  /-- The file that errors name. -/
  path : String
  token? : Option String := none
  /-- Reading the token fails for this reason. -/
  loadError? : Option String := none
  /-- Keeping a token fails for this reason. -/
  saveError? : Option String := none
  credentials : List (Except Error Credentials) := []
  obtained : List (Except Error String) := []
  renewed : List (Except Error String) := []
  performed : List (Except Error α) := []
  issuer? : Option Issuer := none
  /-- What an operation yields if the issuer has it carried out. -/
  outcome : String → α

namespace Rehearsal

variable {α β : Type}

/-- The error of a server in the surroundings. -/
def refusal (r : Rehearsal α) (message : String) : Error :=
  .server r.url message

/-- The answer of a collaborator with neither script nor issuer. -/
def exhausted (r : Rehearsal α) : Error :=
  r.refusal "script exhausted"

/-- The user who logs in if nothing else is said. -/
def someone : Credentials :=
  ⟨"user@example.com", "secret"⟩

/-- The answer of the issuer to someone who wants a token. -/
def issue (r : Rehearsal α) : Except Error String × Rehearsal α :=
  match r.issuer? with
  | none => (.error r.exhausted, r)
  | some i => (.ok i.issue.1, { r with issuer? := some i.issue.2 })

/-- The answer of the issuer to someone who wants a new token for one. -/
def reissue (r : Rehearsal α) (token : String) : Except Error String × Rehearsal α :=
  match r.issuer? with
  | none => (.error r.exhausted, r)
  | some i => if i.accepts token then r.issue else (.error (r.refusal "Error decoding signature"), r)

/-- The answer of the issuer to an operation. -/
def carryOut (r : Rehearsal α) (token : String) : Except Error α :=
  match r.issuer? with
  | none => .error r.exhausted
  | some i => if i.accepts token then .ok (r.outcome token) else .error (r.refusal "Signature has expired")

/-- The answer to a question, and the surroundings after it. -/
def answer (r : Rehearsal α) : (q : Session.Call) → q.Answer α × Rehearsal α
  | .load =>
    (match r.loadError? with
      | some cause => .error (.unreadable r.path (.other cause))
      | none => .ok r.token?, r)
  | .save token =>
    match r.saveError? with
    | some cause => (.error (.unwritable r.path (.other cause)), r)
    | none => (.ok (), { r with token? := some token })
  | .credentials =>
    let (due?, credentials) := Script.next r.credentials
    (due?.getD (.ok someone), { r with credentials })
  | .obtain _ =>
    match Script.next r.obtained with
    | (some due, obtained) => (due, { r with obtained })
    | (none, _) => r.issue
  | .renew token =>
    match Script.next r.renewed with
    | (some due, renewed) => (due, { r with renewed })
    | (none, _) => r.reissue token
  | .perform token =>
    match Script.next r.performed with
    | (some due, performed) => (due, { r with performed })
    | (none, _) => (r.carryOut token, r)

/-- A dialogue held with the surroundings: its value, the surroundings after it, and the questions. -/
def hold (r : Rehearsal α) (d : Dialogue Session.Call (Session.Call.Answer α) β) :
    β × Rehearsal α × List Session.Call :=
  let (value, r, log) := d.runLogged answer r
  (value, r, log.map (·.question))

end Rehearsal

end MeshControl.Account
