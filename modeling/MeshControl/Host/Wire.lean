import MeshControl.Host.Call

/-!
# What passes over the network

The program gives a request to an HTTP client and waits for the answer.  What the client does meanwhile
is not decided by the program: a server may send the request elsewhere, and then the client may open
more connections than one and hand over more requests than the one that it was given.  The client
(`Carrier`) is a parameter of everything that is said about connections.
-/

namespace MeshControl.Host

open MeshControl.Http

/-- What a server says to the request that was handed over to it. -/
structure Reply where
  status : Nat
  /-- The address that the server names in place of its own. -/
  location? : Option Url
  body : List UInt8
  deriving DecidableEq, Repr

namespace Reply

/-- What the program is told of a reply. -/
def answer (r : Reply) : Answer :=
  ⟨r.status, r.body⟩

/-- Whether a reply sends the very request elsewhere, with all that it carries. -/
def keepsRequest (r : Reply) : Bool :=
  r.status = 307 || r.status = 308

/-- Whether a reply sends elsewhere for its answer. -/
def namesAnswer (r : Reply) : Bool :=
  r.status = 301 || r.status = 302 || r.status = 303

/-- Whether a reply sends elsewhere. -/
def isRedirect (r : Reply) : Bool :=
  (r.keepsRequest || r.namesAnswer) && r.location?.isSome

/-- What proves the right to a request where it is sent to: nothing on another host. -/
def authorizationAt? (url : Url) (request : Request) : Option String :=
  if url.scheme = request.url.scheme ∧ url.host = request.url.host
      ∧ url.port? = request.url.port? then
    request.authorization?
  else none

/-- The request with which a client goes where a reply sends it. -/
def next? (r : Reply) (request : Request) : Option Request :=
  match r.location? with
  | none => none
  | some url =>
    if r.keepsRequest then
      some ⟨request.method, url, authorizationAt? url request, request.body⟩
    else if r.namesAnswer then some ⟨.get, url, authorizationAt? url request, .empty⟩
    else none

end Reply

namespace Wire

/-- What is asked of the network and of the rest of the machine. -/
inductive Call where
  /-- Open a connection for a request and hand the request over. -/
  | connect (request : Request)
  | aside (question : Host.Call)
  deriving Repr

/-- The kind of answer to a question. -/
abbrev Call.Answer : Call → Type
  | connect _ => Except Failure Reply
  | aside question => question.Answer

/-- A dialogue with the network and the rest of the machine. -/
abbrev Asking (α : Type) := Dialogue Call Call.Answer α

/-- Opens a connection for a request and hands the request over. -/
def connect (request : Request) : Asking (Except Failure Reply) :=
  Dialogue.query (Call.connect request)

end Wire

/-- An HTTP client: what it does with a request, and what it comes back with. -/
abbrev Carrier := Request → Wire.Asking (Except Failure Answer)

namespace Carrier

/-- A connection for a request; with `follow` the client goes where the reply sends it. -/
def exchange (follow : Carrier) : Carrier := fun request => do
  match ← (Wire.connect request : Wire.Asking (Except Failure Reply)) with
  | .error failure => return .error failure
  | .ok reply =>
    match reply.next? request with
    | none => return .ok reply.answer
    | some next => follow next

/-- A client that goes where replies send it, so many times at most. -/
def following : Nat → Carrier
  | 0 => exchange fun _ => return .error (.broken ["too many redirects"])
  | left + 1 => exchange (following left)

/-- What becomes of a question to the machine: requests are carried, all else is asked as it is. -/
def answerCall (carrier : Carrier) : (q : Call) → Wire.Asking q.Answer
  | .send request => carrier request
  | question => Dialogue.query (Wire.Call.aside question)

/-- A dialogue with the machine whose requests are carried. -/
def carryAll {α : Type} (carrier : Carrier) (d : Asking α) : Wire.Asking α :=
  d.answerWith carrier.answerCall

end Carrier

end MeshControl.Host
