import MeshControl.Account.Login
import MeshControl.Account.Operation
import MeshControl.Account.Reply
import MeshControl.Account.TokenFile

/-!
# The account server

Query documents are posted with their variables as JSON, with the token of the session in the head of
the request.  The answer is data, or errors whose messages are told on one line; the status of the
answer is looked at only if its body says nothing.  With a file for the token, a server and a terminal,
a session takes place on a machine (`Server.onHost`).
-/

namespace MeshControl.Account

open MeshControl.Http MeshControl.Json MeshControl.Text

/-- The account server. -/
structure Server where
  url : String
  deriving DecidableEq, Repr

namespace Server

/-- The document that obtains a token. -/
def loginDocument : String :=
  document "mutation ObtainToken($username: String!, $password: String!)"
    (document "tokenAuth(username: $username, password: $password)" "token")

/-- The document that renews a token. -/
def renewalDocument : String :=
  document "mutation RefreshToken($token: String!)" (document "refreshToken(token: $token)" "token")

/-- The request that posts a document. -/
def request (s : Server) (token? : Option String) (document : String) (arguments : Value) :
    Except Failure Request :=
  Request.build .post s.url [] (token?.map fun token => "JWT " ++ token)
    (.json (.object [("query", .string document), ("variables", arguments)]))

/-- What is wrong with an answer that cannot be read. -/
def unreadableDetail (status : Nat) : String :=
  if isSuccess status then "the text is not of the expected form" else "HTTP " ++ statusText status

/-- The data in an answer. -/
def readAnswer {α : Type} (s : Server) (decode? : Node → Option α) (answer : Answer) :
    Except Error α :=
  match (Node.ofText? (Utf8.decodeLossy answer.body)).bind (Reply.ofNode? decode?) with
  | none => .error (.undecodable s.url (unreadableDetail answer.status))
  | some reply =>
    match reply.errorText?, reply.data? with
    | some message, _ => .error (.server s.url message)
    | none, some data => .ok data
    | none, none => .error (.undecodable s.url "response carried no data")

/-- The failure of an exchange as an error. -/
def exchangeError (s : Server) (failure : Failure) : Error :=
  .transport s.url (failure.trace (Url.normalText s.url))

/-- Posts a document and reads the data that comes back. -/
def post {α : Type} (s : Server) (token? : Option String) (document : String) (arguments : Value)
    (decode? : Node → Option α) : Host.Asking (Except Error α) := do
  match s.request token? document arguments with
  | .error failure => return .error (s.exchangeError failure)
  | .ok request =>
    match ← Host.send request with
    | .error failure => return .error (s.exchangeError failure)
    | .ok answer => return s.readAnswer decode? answer

/-- Obtains a token for a user. -/
def obtain (s : Server) (who : Credentials) : Host.Asking (Except Error String) :=
  s.post none loginDocument
    (.object [("password", .string who.password), ("username", .string who.username)])
    obtainedTokenOfNode?

/-- Renews a token. -/
def renew (s : Server) (token : String) : Host.Asking (Except Error String) :=
  s.post (some token) renewalDocument (.object [("token", .string token)]) refreshedTokenOfNode?

/-- The decoder of data of any form: a free-form value one level below the reply. -/
def anyData? (node : Node) : Option Value :=
  node.value? (Node.maxNesting - 1)

/-- Carries a query out with a token. -/
def query (s : Server) (token document : String) (arguments : Value) :
    Host.Asking (Except Error Value) :=
  s.post (some token) document arguments anyData?

end Server

/-! ### Sessions on a machine -/

/-- Where sessions take place: the server, the file of the token, and whether anybody may be asked. -/
structure Desk where
  server : Server
  tokenPath : String
  nonInteractive : Bool
  deriving DecidableEq, Repr

namespace Desk

/-- The answer of the machine to a question of a session in which `perform` is the operation. -/
def answerCall {α : Type} (d : Desk) (perform : String → Host.Asking (Except Error α)) :
    (q : Session.Call) → Host.Asking (q.Answer α)
  | .load => Host.onFiles (TokenFile.load d.tokenPath)
  | .save token => Host.onFiles (TokenFile.save d.tokenPath token)
  | .credentials => askCredentialsUnless d.nonInteractive
  | .obtain who => d.server.obtain who
  | .renew token => d.server.renew token
  | .perform token => perform token

/-- A dialogue of a session held on the machine. -/
def onHost {α β : Type} (d : Desk) (perform : String → Host.Asking (Except Error α))
    (session : Session.Asking α β) : Host.Asking (Except Error β) :=
  session.run.answerWith (d.answerCall perform)

/-- Carries an operation out and shows what comes back. -/
def run (d : Desk) (op : Operation) : Host.Asking (Except Error String) := do
  let data ← d.onHost (fun token => d.server.query token op.query op.arguments) Session.call
  return data.map op.render

/-- The operation that does nothing. -/
def idle (_ : String) : Host.Asking (Except Error Unit) :=
  return .ok ()

/-- Opens a session for whoever is asked. -/
def logIn (d : Desk) : Host.Asking (Except Error String) :=
  d.onHost idle Session.interactiveLogin

end Desk

end MeshControl.Account
