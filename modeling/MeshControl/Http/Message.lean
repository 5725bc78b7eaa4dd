import MeshControl.Http.Url
import MeshControl.Json.Printer
import MeshControl.Trace

/-!
# Requests and answers

What is sent to the daemon and to the dashboard and what comes back.  A request may fail in three ways
that matter: nobody listens at the other end (`refused`), it breaks off for another reason (`broken`),
or it cannot even be put together (`unbuildable`).
-/

namespace MeshControl.Http

open MeshControl.Json MeshControl.Text

/-- What a request does. -/
inductive Method where
  | get
  | post
  | put
  | delete
  deriving DecidableEq, Repr, Inhabited

/-- The name of a method. -/
def Method.name : Method → String
  | .get => "GET"
  | .post => "POST"
  | .put => "PUT"
  | .delete => "DELETE"

/-- What a request carries. -/
inductive Body where
  | empty
  | form (fields : List (String × String))
  | json (value : Value)
  deriving Repr, Inhabited

namespace Body

/-- A body as text. -/
def text : Body → String
  | empty => ""
  | form fields => Form.encode fields
  | json value => value.compact

/-- The kind of text that a body is. -/
def contentType? : Body → Option String
  | empty => none
  | form _ => some "application/x-www-form-urlencoded"
  | json _ => some "application/json"

end Body

/-- A request. -/
structure Request where
  method : Method
  url : Url
  authorization? : Option String
  body : Body
  deriving Repr

/-- The version of this program. -/
def version : String := "0.4.0-dev0"

/-- The name that this program gives itself in requests. -/
def userAgent : String := "hnet CLI version " ++ version

/-- An answer. -/
structure Answer where
  status : Nat
  body : List UInt8
  deriving Repr, Inhabited

/-- Why there is no answer. -/
inductive Failure where
  /-- Nobody listens at the other end. -/
  | refused
  /-- The exchange broke off; the causes from the outermost to the innermost. -/
  | broken (causes : List String)
  /-- The request cannot be put together; its address, if that much is known. -/
  | unbuildable (url? : Option String) (cause : String)
  deriving DecidableEq, Repr

/-- What the user is told of a failure; `url` is where the request went. -/
def Failure.trace (url : String) : Failure → Trace
  | .refused =>
    ⟨"error sending request for url (" ++ url ++ ")",
      ["client error (Connect)", "tcp connect error", "Connection refused (os error 111)"]⟩
  | .broken causes => ⟨"error sending request for url (" ++ url ++ ")", causes⟩
  | .unbuildable none cause => ⟨"builder error", [cause]⟩
  | .unbuildable (some url) cause => ⟨"builder error for url (" ++ url ++ ")", [cause]⟩

/-- The standard phrase of a status. -/
def reason? : Nat → Option String
  | 100 => some "Continue"
  | 101 => some "Switching Protocols"
  | 102 => some "Processing"
  | 103 => some "Early Hints"
  | 200 => some "OK"
  | 201 => some "Created"
  | 202 => some "Accepted"
  | 203 => some "Non Authoritative Information"
  | 204 => some "No Content"
  | 205 => some "Reset Content"
  | 206 => some "Partial Content"
  | 207 => some "Multi-Status"
  | 208 => some "Already Reported"
  | 226 => some "IM Used"
  | 300 => some "Multiple Choices"
  | 301 => some "Moved Permanently"
  | 302 => some "Found"
  | 303 => some "See Other"
  | 304 => some "Not Modified"
  | 305 => some "Use Proxy"
  | 307 => some "Temporary Redirect"
  | 308 => some "Permanent Redirect"
  | 400 => some "Bad Request"
  | 401 => some "Unauthorized"
  | 402 => some "Payment Required"
  | 403 => some "Forbidden"
  | 404 => some "Not Found"
  | 405 => some "Method Not Allowed"
  | 406 => some "Not Acceptable"
  | 407 => some "Proxy Authentication Required"
  | 408 => some "Request Timeout"
  | 409 => some "Conflict"
  | 410 => some "Gone"
  | 411 => some "Length Required"
  | 412 => some "Precondition Failed"
  | 413 => some "Payload Too Large"
  | 414 => some "URI Too Long"
  | 415 => some "Unsupported Media Type"
  | 416 => some "Range Not Satisfiable"
  | 417 => some "Expectation Failed"
  | 418 => some "I'm a teapot"
  | 421 => some "Misdirected Request"
  | 422 => some "Unprocessable Entity"
  | 423 => some "Locked"
  | 424 => some "Failed Dependency"
  | 425 => some "Too Early"
  | 426 => some "Upgrade Required"
  | 428 => some "Precondition Required"
  | 429 => some "Too Many Requests"
  | 431 => some "Request Header Fields Too Large"
  | 451 => some "Unavailable For Legal Reasons"
  | 500 => some "Internal Server Error"
  | 501 => some "Not Implemented"
  | 502 => some "Bad Gateway"
  | 503 => some "Service Unavailable"
  | 504 => some "Gateway Timeout"
  | 505 => some "HTTP Version Not Supported"
  | 506 => some "Variant Also Negotiates"
  | 507 => some "Insufficient Storage"
  | 508 => some "Loop Detected"
  | 510 => some "Not Extended"
  | 511 => some "Network Authentication Required"
  | _ => none

/-- A status with its phrase. -/
def statusText (status : Nat) : String :=
  toString status ++ " " ++ (reason? status).getD "<unknown status code>"

/-- Whether a status reports success. -/
def isSuccess (status : Nat) : Bool :=
  200 ≤ status && status < 300

/-- Whether a text may stand in the head of a request: no control but tab. -/
def isHeaderText (s : String) : Bool :=
  s.toList.all fun c => c = '\t' || (0x20 ≤ c.toNat && c.toNat ≠ 0x7F)

/-- Why no request goes to an address, if none does: it has another scheme than the two of the web
itself, a host that would need quotes, or more than 65534 bytes. -/
def Url.refusal? (url : Url) : Option String :=
  if url.scheme ≠ "http" ∧ url.scheme ≠ "https" then some "URL scheme is not allowed"
  else if url.host.toList.any (['"', Char.ofNat 0x60, '\x7b', '\x7d'].contains ·)
      ∨ 65534 < url.text.utf8ByteSize then
    some "Parsed Url is not a valid Uri"
  else none

/-- Puts a request together: reads the address, adds fields to its query, and refuses what cannot
stand in a head and addresses to which no request goes. -/
def Request.build (method : Method) (url : String) (fields : List (String × String))
    (authorization? : Option String) (body : Body) : Except Failure Request :=
  match Url.read url with
  | .error e => .error (.unbuildable e.text? e.message)
  | .ok url =>
    let url := if fields.isEmpty then url else url.withFields fields
    if !(authorization?.all isHeaderText) then
      .error (.unbuildable none "failed to parse header value")
    else
      match url.refusal? with
      | some cause => .error (.unbuildable (some url.text) cause)
      | none => .ok ⟨method, url, authorization?, body⟩

end MeshControl.Http
