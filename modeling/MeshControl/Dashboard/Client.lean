import MeshControl.Dashboard.Envelope
import MeshControl.Dashboard.Operation
import MeshControl.Daemon.Access

/-!
# Calling the dashboard

Requests to the dashboard go through the daemon, which forwards them to whoever knows its secret: the
endpoint stands behind the daemon's forwarding route and the secret is the last field of the query.
An answer counts only if its status and its envelope both report success; warnings on a successful
answer are passed on to the user.
-/

namespace MeshControl.Dashboard

open MeshControl.Daemon MeshControl.Http MeshControl.Json

/-- Why a call to the dashboard failed. -/
inductive Error where
  /-- Nobody listens at the daemon's address. -/
  | refused
  | transport (cause : Trace)
  /-- The status does not report success; the text of the fault, if there is one. -/
  | badStatus (status : Nat) (fault? : Option String)
  /-- The answer is not of the form that the endpoint promises. -/
  | undecodable (endpoint : String)
  /-- The dashboard answered that it did not do what it was asked. -/
  | rejected (message : String)
  /-- The request makes no sense. -/
  | invalid (message : String)
  | secret (cause : SecretError)
  deriving DecidableEq, Repr

namespace Error

/-- The message of an error. -/
def message : Error → String
  | refused => "daemon refused the connection; make sure it is running before trying again"
  | transport cause => "request to the dashboard failed: " ++ cause.message
  | badStatus status fault? =>
    "API responded with " ++ statusText status ++ (fault?.map fun f => ": " ++ f).getD ""
  | undecodable endpoint =>
    "unable to decode dashboard response from " ++ endpoint ++ ": " ++ Daemon.Error.formMessage
  | rejected message | invalid message => message
  | secret cause => cause.message

/-- The messages of the causes of an error. -/
def causes : Error → List String
  | transport cause => cause.message :: cause.causes
  | undecodable _ => [Daemon.Error.formMessage]
  | secret cause => cause.causes
  | refused | badStatus _ _ | rejected _ | invalid _ => []

/-- What the user is told of an error. -/
def trace (e : Error) : Trace :=
  ⟨e.message, e.causes⟩

end Error

/-! ### Requests -/

/-- What a call to the dashboard asks. -/
inductive Call where
  | link (question : Link.Call)
  /-- Pass a warning on to the user. -/
  | warn (text : String)
  deriving Repr

/-- The kind of answer to a question. -/
abbrev Call.Answer : Call → Type
  | link question => question.Answer
  | warn _ => Unit

/-- A dialogue of a call, which may fail. -/
abbrev Asking (α : Type) := ExceptT Error (Dialogue Call Call.Answer) α

/-- A part of a call that concerns the secret or the wire. -/
def onLink {α : Type} (d : Link.Asking α) : Dialogue Call Call.Answer α :=
  d.answerWith fun q => Dialogue.query (Call.link q)

/-- The address to which requests for an endpoint go. -/
def forwardUrl (base : BaseUrl) (endpoint : String) : String :=
  base.route ("/api/forward" ++ endpoint)

/-- The request for an endpoint, which carries the secret. -/
def forwarded (base : BaseUrl) (method : Method) (endpoint : String) (body? : Option Value)
    (secret : Secret) : Except Failure Request :=
  Request.build method (forwardUrl base endpoint) [("secret", secret.text)] none
    ((body?.map Body.json).getD .empty)

/-- The text of the fault that an answer reports, if it is one and says something. -/
def faultText? (body : List UInt8) : Option String :=
  (((Node.ofBytes? body).bind Fault.ofNode?).map Fault.error).filter (!·.isEmpty)

/-- The envelope in an answer. -/
def readAnswer {α : Type} (decode? : Node → Option α) (endpoint : String) (answer : Answer) :
    Except Error (Envelope α) :=
  if isSuccess answer.status then
    match (Node.ofBytes? answer.body).bind (Envelope.ofNode? decode?) with
    | some envelope => .ok envelope
    | none => .error (.undecodable endpoint)
  else .error (.badStatus answer.status (faultText? answer.body))

/-- The failure of an exchange as an error; `url` is where the request went. -/
def exchangeError (url : String) : Failure → Error
  | .refused => .refused
  | failure => .transport (failure.trace url)

/-- Asks for the secret. -/
def askSecret : Asking Secret :=
  ExceptT.mk do return (← onLink Link.secret).mapError .secret

/-- Where a request goes; the written address of one that could not be put together. -/
def destination (base : BaseUrl) (endpoint : String) : Except Failure Request → String
  | .ok r => r.url.text
  | .error _ => forwardUrl base endpoint

/-- Sends a request, if it could be put together, and waits for the answer. -/
def exchange (url : String) (built : Except Failure Request) : Asking Answer :=
  ExceptT.mk do return (← onLink (Link.send built)).mapError (exchangeError url)

/-- Sends a request and reads the envelope that comes back, whatever it says. -/
def request {α : Type} (base : BaseUrl) (method : Method) (endpoint : String)
    (body? : Option Value) (decode? : Node → Option α) : Asking (Envelope α) := do
  let secret ← askSecret
  let built := forwarded base method endpoint body? secret
  let answer ← exchange (destination base endpoint built) built
  ExceptT.mk (return readAnswer decode? endpoint answer)

/-- Passes warnings on to the user. -/
def warnAll : List String → Dialogue Call Call.Answer Unit
  | [] => return ()
  | text :: rest => do
    Dialogue.query (Call.warn text)
    warnAll rest

/-- Sends a request and takes the payload out of a successful answer. -/
def call {α : Type} (base : BaseUrl) (method : Method) (endpoint : String) (body? : Option Value)
    (decode? : Node → Option α) (default : α) : Asking α := do
  let envelope ← request base method endpoint body? decode?
  if envelope.isSuccess then
    warnAll envelope.warnings
    return envelope.payload?.getD default
  else throw (.rejected envelope.failureMessage)

/-- Reads an endpoint. -/
def get {α : Type} (base : BaseUrl) (endpoint : String) (decode? : Node → Option α)
    (default : α) : Asking α :=
  call base .get endpoint none decode? default

/-- The decoder of payloads of any form: a free-form value one level below the envelope. -/
def anyPayload? (node : Node) : Option Value :=
  node.value? (Node.maxNesting - 1)

/-- The answer of the machine to a question of a call. -/
def answerCall (access : Access) : (q : Call) → Host.Asking q.Answer
  | .link question => access.answerLink question
  | .warn text => Host.complain (Terminal.warningLine text)

/-- A call made on the machine. -/
def onHost {α : Type} (access : Access) (d : Asking α) : Host.Asking (Except Error α) :=
  d.run.answerWith (answerCall access)

/-! ### Operations -/

/-- The decoder of lists of groups. -/
def groups? : Node → Option (List Group) :=
  Node.list? Group.ofNode?

/-- The decoder of lists of devices. -/
def devices? : Node → Option (List Device) :=
  Node.list? Device.ofNode?

/-- Carries an operation out and shows what comes back. -/
def Operation.run (op : Operation) (base : BaseUrl) : Asking String := do
  if let some message := op.objection? then throw (.invalid message)
  let ask {α : Type} (decode? : Node → Option α) (default : α) (tell : α → String) :
      Asking String := do
    return tell (← call base op.method op.endpoint op.body? decode? default)
  match op with
  | claimToken =>
    ask User.ofNode? {} fun user => "Your claim token: " ++ Terminal.bold user.settings.claimToken
  | rotateClaimToken =>
    ask User.ofNode? {} fun user => "New claim token: " ++ Terminal.bold user.settings.claimToken
  | listGroups => ask groups? [] groupsText
  | showGroup _ => ask GroupDetails.ofNode? {} groupText
  | createGroup _ =>
    ask Group.ofNode? {} fun g => "Created group " ++ Terminal.bold g.name ++ " (" ++ g.id ++ ")"
  | updateGroup _ _ => ask Group.ofNode? {} fun g => "Updated group " ++ Terminal.bold g.name
  | removeGroup id => ask anyPayload? .null fun _ => "Removed group " ++ id
  | attachDevice input =>
    ask anyPayload? .null fun _ => "Attached " ++ input.deviceIp ++ " to the group"
  | detachDevice input =>
    ask anyPayload? .null fun _ => "Detached " ++ input.deviceIp ++ " from the group"
  | listDevices => ask devices? [] devicesText
  | showDevice _ => ask Device.ofNode? {} deviceText
  | updateDevice _ _ => ask Device.ofNode? {} fun d => "Updated device " ++ Terminal.bold d.hostname
  | unclaimDevice id => ask anyPayload? .null fun _ => "Unclaimed device " ++ id
  | claim _ => ask anyPayload? .null fun _ => "Claim request was successful"
  | unclaimSelf => ask anyPayload? .null fun _ => "This device was unclaimed"

end MeshControl.Dashboard
