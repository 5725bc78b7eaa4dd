import MeshControl.Host.Wire
import MeshControl.Proofs.Dialogue.Budget
import MeshControl.Proofs.Host.Sends

/-!
# Requests that are carried

An HTTP client opens a connection for a request and, as long as replies send it elsewhere, for
another one (`Carried`).  It does so ten times at most, keeps the method of a request or only reads,
and says of a request that it was refused if nobody listened where it went last.  That much a client
is held to (`Carrier.IsDocumented`), and a client that follows all replies is within it
(`Carrier.isDocumented_following`).

Each connection but the first is charged to the reply that led to it, by induction on the way of the
request.  Along a log in which the requests of a machine are carried the charges are added up
(`countP_isConnect_le`, `countP_isDelivered_le`).
-/

namespace MeshControl.Host

open Dialogue MeshControl.Http

namespace Reply

/-- There is a request to follow a reply with exactly if the reply sends elsewhere. -/
theorem isRedirect_eq (r : Reply) (request : Request) :
    r.isRedirect = (r.next? request).isSome := by
  unfold isRedirect next?
  cases r.location? with
  | none => exact Bool.and_false _
  | some url =>
    rw [Option.isSome_some, Bool.and_true]
    cases r.keepsRequest <;> cases r.namesAnswer <;> rfl

/-- A reply is followed with the method that it is a reply to, or by reading. -/
theorem method_of_next? {r : Reply} {request next : Request} (h : r.next? request = some next) :
    next.method = request.method ∨ next.method = .get := by
  unfold next? at h
  split at h
  · cases h
  · split_ifs at h
    · cases h
      exact .inl rfl
    · cases h
      exact .inr rfl

end Reply

namespace Wire

/-- What passed over the network, in order. -/
abbrev Log := List (Exchange Call Call.Answer)

/-- Whether an exchange is a connection for a request. -/
def isConnect : Exchange Call Call.Answer → Bool
  | ⟨.connect _, _⟩ => true
  | _ => false

/-- Whether an exchange is a request that is sent elsewhere. -/
def isRedirect : Exchange Call Call.Answer → Bool
  | ⟨.connect _, .ok reply⟩ => reply.isRedirect
  | _ => false

/-- Whether an exchange is a request with this method that is handed over: somebody listened. -/
def isDelivered (method : Method) : Exchange Call Call.Answer → Bool
  | ⟨.connect _, .error .refused⟩ => false
  | ⟨.connect request, _⟩ => request.method = method
  | _ => false

/-- Whether an exchange is a request with this method that is sent elsewhere. -/
def isRedirected (method : Method) : Exchange Call Call.Answer → Bool
  | ⟨.connect request, .ok reply⟩ => request.method = method && reply.isRedirect
  | _ => false

theorem isRedirect_of_isRedirected {method : Method} {x : Exchange Call Call.Answer}
    (h : isRedirected method x = true) : isRedirect x = true := by
  obtain ⟨_ | _, answer⟩ := x
  · rcases answer with _ | reply
    · cases h
    · exact (Bool.and_eq_true_iff.mp h).2
  · cases h

/-- How often a client goes where a reply sends it. -/
def redirectLimit : Nat := 10

/-- The way of a request that may be sent elsewhere so many times, with what its client comes back
with. -/
inductive Carried : Nat → Request → Log → Except Failure Answer → Prop
  /-- There is no reply. -/
  | failed (left : Nat) (request : Request) (failure : Failure) :
      Carried left request [⟨.connect request, .error failure⟩] (.error failure)
  /-- The reply is the answer. -/
  | answered (left : Nat) (request : Request) (reply : Reply) (final : reply.isRedirect = false) :
      Carried left request [⟨.connect request, .ok reply⟩] (.ok reply.answer)
  /-- The client does not go where the reply sends it. -/
  | stopped (left : Nat) (request : Request) (reply : Reply) (redirect : reply.isRedirect = true)
      (result : Except Failure Answer) (listened : result ≠ .error .refused) :
      Carried left request [⟨.connect request, .ok reply⟩] result
  /-- The client goes where the reply sends it. -/
  | followed {left : Nat} {request next : Request} {reply : Reply} {rest : Log}
      {result : Except Failure Answer} (redirect : reply.isRedirect = true)
      (method : next.method = request.method ∨ next.method = .get)
      (tail : Carried left next rest result) :
      Carried (left + 1) request (⟨.connect request, .ok reply⟩ :: rest) result

namespace Carried

variable {left : Nat} {request : Request} {log : Log} {result : Except Failure Answer}

/-- Each connection but one is owed to a reply that sends elsewhere. -/
theorem countP_isConnect_le (h : Carried left request log result) :
    log.countP isConnect ≤ 1 + log.countP isRedirect := by
  induction h with
  | failed | answered | stopped => exact Nat.le_add_right 1 _
  | @followed left request next reply rest result redirect _ _ ih =>
    have hredirect : isRedirect ⟨.connect request, .ok reply⟩ = true := redirect
    rw [List.countP_cons_of_pos rfl, List.countP_cons_of_pos hredirect]
    omega

theorem countP_isConnect_le_limit (h : Carried left request log result) :
    log.countP isConnect ≤ left + 1 := by
  induction h with
  | failed | answered | stopped => exact Nat.le_add_left 1 _
  | followed _ _ _ ih =>
    rw [List.countP_cons_of_pos rfl]
    exact Nat.succ_le_succ ih

/-- A request that changes something is handed over once if it is not refused in the end, and each
other time for a reply that sends it elsewhere. -/
theorem countP_isDelivered_le {method : Method} (hmethod : method ≠ .get)
    (h : Carried left request log result) :
    log.countP (isDelivered method) ≤
      (if isUnrefused method ⟨.send request, result⟩ then 1 else 0) +
        log.countP (isRedirected method) := by
  induction h with
  | failed left request failure =>
    rw [List.countP_singleton]
    rcases failure with _ | _ | _
    · exact Nat.zero_le _
    · exact Nat.le_add_right _ _
    · exact Nat.le_add_right _ _
  | answered left request reply =>
    rw [List.countP_singleton]
    exact Nat.le_add_right _ _
  | stopped left request reply _ result listened =>
    rw [List.countP_singleton, isUnrefused_eq_decide listened]
    exact Nat.le_add_right _ _
  | @followed left request next reply rest result redirect hnext _ ih =>
    -- the request that is followed pays for itself, and what follows it has its method or only reads
    have hsame : isDelivered method ⟨.connect request, .ok reply⟩ =
        isRedirected method ⟨.connect request, .ok reply⟩ := by
      show decide _ = (decide _ && reply.isRedirect)
      rw [redirect, Bool.and_true]
    have hpasses : isUnrefused method ⟨.send next, result⟩ = true →
        isUnrefused method ⟨.send request, result⟩ = true := by
      rw [isUnrefused_iff, isUnrefused_iff]
      rintro ⟨hlistened, rfl⟩
      exact ⟨hlistened, (hnext.resolve_right hmethod).symm⟩
    rw [List.countP_cons, List.countP_cons, hsame]
    by_cases hunrefused : isUnrefused method ⟨.send next, result⟩ = true
    · rw [if_pos hunrefused] at ih
      rw [if_pos (hpasses hunrefused)]
      omega
    · rw [if_neg hunrefused] at ih
      omega

end Carried

end Wire

namespace Carrier

/-- What is known of a client: it opens one connection for a request, and another one only where a reply
sends it, with the same method or to read, and no more often than its limit. -/
def IsDocumented (carrier : Carrier) : Prop :=
  ∀ request log result,
    (carrier request).Branch log result → Wire.Carried Wire.redirectLimit request log result

/-- An exchange comes to its end, or the client goes where the reply sends it. -/
theorem carried_or_followed_of_branch_exchange {follow : Carrier} {request : Request}
    {log : Wire.Log} {result : Except Failure Answer}
    (h : (exchange follow request).Branch log result) (left : Nat) :
    Wire.Carried left request log result ∨
      ∃ reply next rest, reply.isRedirect = true ∧
        (next.method = request.method ∨ next.method = .get) ∧ (follow next).Branch rest result ∧
          log = ⟨.connect request, .ok reply⟩ :: rest := by
  obtain ⟨first, told, rest, hconnect, hrest, rfl⟩ := branch_bind_iff.mp h
  obtain rfl := branch_query_iff.mp hconnect
  rcases told with failure | reply
  · obtain ⟨rfl, rfl⟩ := branch_done_iff.mp hrest
    exact .inl (.failed left request failure)
  · have hredirect : reply.isRedirect = (reply.next? request).isSome := reply.isRedirect_eq request
    cases hnext : reply.next? request with
    | none =>
      simp only [hnext] at hrest hredirect
      obtain ⟨rfl, rfl⟩ := branch_done_iff.mp hrest
      exact .inl (.answered left request reply hredirect)
    | some next =>
      simp only [hnext] at hrest hredirect
      exact .inr ⟨reply, next, rest, hredirect, Reply.method_of_next? hnext, hrest, rfl⟩

/-- A client that goes where replies send it does what is known of a client. -/
theorem carried_of_branch_following {left : Nat} {request : Request} {log : Wire.Log}
    {result : Except Failure Answer} (h : (following left request).Branch log result) :
    Wire.Carried left request log result := by
  induction left generalizing request log with
  | zero =>
    obtain hcarried | ⟨reply, next, rest, hredirect, _, hrest, rfl⟩ :=
      carried_or_followed_of_branch_exchange h 0
    · exact hcarried
    · -- it has gone elsewhere as often as it may
      obtain ⟨rfl, rfl⟩ := branch_done_iff.mp hrest
      exact .stopped 0 request reply hredirect _ nofun
  | succ left ih =>
    obtain hcarried | ⟨reply, next, rest, hredirect, hmethod, hrest, rfl⟩ :=
      carried_or_followed_of_branch_exchange h (left + 1)
    · exact hcarried
    · exact .followed hredirect hmethod (ih hrest)

theorem isDocumented_following : (following Wire.redirectLimit).IsDocumented :=
  fun _ _ _ => carried_of_branch_following

/-! ### Logs in which requests are carried -/

section Spelled

variable {carrier : Carrier} {log : Log} {wire : Wire.Log}

/-- All but requests is asked as it is. -/
theorem answerCall_eq_query {q : Call} (hq : ∀ request, q ≠ .send request) :
    carrier.answerCall q = query (Wire.Call.aside q) := by
  cases q with
  | send request => exact absurd rfl (hq request)
  | _ => rfl

/-- What the requests of a log cost, its carried log costs: nothing else that is asked of the machine
opens a connection. -/
theorem countP_le_add {p extra : Exchange Wire.Call Wire.Call.Answer → Bool}
    {kind : Exchange Call Call.Answer → Bool} {n : Nat}
    (haside : ∀ question answer, p ⟨.aside question, answer⟩ = false)
    (hcarried : ∀ request answer part, (carrier request).Branch part answer →
      part.countP p ≤ (if kind ⟨.send request, answer⟩ then n else 0) + part.countP extra)
    (h : Spelled carrier.answerCall log wire) :
    wire.countP p ≤ log.countP kind * n + wire.countP extra := by
  have hle : wire.countP p ≤
      (log.countP fun _ => false) + log.countP kind * n + wire.countP extra := by
    refine h.countP_le_add fun q answer part hpart => ?_
    rw [if_neg Bool.false_ne_true, Nat.zero_add]
    by_cases hsend : ∃ request, q = .send request
    · obtain ⟨request, rfl⟩ := hsend
      exact hcarried request answer part hpart
    · rw [answerCall_eq_query (not_exists.mp hsend)] at hpart
      have hfree : part.countP p ≤ 0 := atMost_query (haside q) part answer hpart
      exact Nat.le_trans hfree (Nat.zero_le _)
  simpa using hle

variable (client : carrier.IsDocumented)
include client

/-- Each connection is owed to a request or to a reply that sends elsewhere. -/
theorem countP_isConnect_le (h : Spelled carrier.answerCall log wire) :
    wire.countP Wire.isConnect ≤ log.countP isSend + wire.countP Wire.isRedirect := by
  have hle : wire.countP Wire.isConnect ≤
      log.countP isSend * 1 + wire.countP Wire.isRedirect :=
    countP_le_add (fun _ _ => rfl)
      (fun request answer part hpart => (client request part answer hpart).countP_isConnect_le) h
  rwa [Nat.mul_one] at hle

/-- A request opens one connection, and one for each time that its client may go elsewhere. -/
theorem countP_isConnect_le_limit (h : Spelled carrier.answerCall log wire) :
    wire.countP Wire.isConnect ≤ log.countP isSend * (Wire.redirectLimit + 1) := by
  have hle : wire.countP Wire.isConnect ≤
      log.countP isSend * (Wire.redirectLimit + 1) + wire.countP fun _ => false :=
    countP_le_add (fun _ _ => rfl)
      (fun request answer part hpart =>
        Nat.le_add_right_of_le (client request part answer hpart).countP_isConnect_le_limit) h
  simpa using hle

/-- A request that changes something is handed over if it is not refused, and each other time for a
reply that sends it elsewhere. -/
theorem countP_isDelivered_le {method : Method} (hmethod : method ≠ .get)
    (h : Spelled carrier.answerCall log wire) :
    wire.countP (Wire.isDelivered method) ≤
      log.countP (isUnrefused method) + wire.countP (Wire.isRedirected method) := by
  have hle : wire.countP (Wire.isDelivered method) ≤
      log.countP (isUnrefused method) * 1 + wire.countP (Wire.isRedirected method) :=
    countP_le_add (fun _ _ => rfl)
      (fun request answer part hpart =>
        (client request part answer hpart).countP_isDelivered_le hmethod) h
  rwa [Nat.mul_one] at hle

end Spelled

end Carrier

end MeshControl.Host
