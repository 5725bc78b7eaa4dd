import MeshControl.Proofs.Daemon.Refusal
import MeshControl.Proofs.Dashboard.Requests

/-!
# Calls to the dashboard on a machine

Every request that a call sends from a machine is one of the call itself (`mem_link_of_mem_send`), so it
is known from the endpoint and the secret (`forwarded_of_get`, `forwarded_of_perform`), and a call sends
one request at the most.
-/

namespace MeshControl.Dashboard

open Daemon Dialogue MeshControl.Host MeshControl.Http MeshControl.Json

variable {α : Type} {access : Access} {method : Method} {endpoint : String}

/-- The exchange is a request without a body for an endpoint, which carries a secret. -/
def IsForwarded (base : BaseUrl) (method : Method) (endpoint : String)
    (x : Exchange Host.Call Host.Call.Answer) : Prop :=
  ∃ secret request answer, forwarded base method endpoint none secret = .ok request ∧
    x = ⟨.send request, answer⟩

theorem method_of_forwarded {base : BaseUrl} {body? : Option Value} {secret : Secret}
    {request : Request} (h : forwarded base method endpoint body? secret = .ok request) :
    request.method = method := by
  rw [forwarded] at h
  rcases Link.build_cases method (forwardUrl base endpoint) [("secret", secret.text)] none
    ((body?.map Body.json).getD .empty) with ⟨_, _, hbuild⟩ | ⟨_, hbuild⟩
  · cases h.symm.trans hbuild
  · cases h.symm.trans hbuild
    rfl

/-- Whether an exchange of a call is a request that is sent. -/
def isSend : Exchange Call Call.Answer → Bool
  | ⟨.link (.send _), _⟩ => true
  | _ => false

/-- What the machine sends for a question is that question. -/
theorem eq_of_mem_send {question : Call} {answer : question.Answer} {log : Host.Log}
    (h : (answerCall access question).Branch log answer) {request : Request}
    {told : Except Failure Answer} (hmem : ⟨.send request, told⟩ ∈ log) :
    (⟨question, answer⟩ : Exchange Call Call.Answer) = ⟨.link (.send request), told⟩ := by
  cases question with
  | warn text =>
    obtain rfl := branch_query_iff.mp h
    cases List.mem_singleton.mp hmem
  | link question =>
    cases question with
    | secret => cases offline_of_secret h _ hmem
    | send asked =>
      obtain rfl := branch_query_iff.mp h
      cases List.mem_singleton.mp hmem
      rfl

theorem mem_link_of_mem_send {outer : Log} {log : Host.Log}
    (h : Spelled (answerCall access) outer log) {request : Request}
    {told : Except Failure Answer} (hmem : ⟨.send request, told⟩ ∈ log) :
    ⟨.link (.send request), told⟩ ∈ outer := by
  obtain ⟨question, answer, part, houter, hpart, hmem⟩ := h.exists_of_mem hmem
  exact eq_of_mem_send hpart hmem ▸ houter

/-- What a call sends is sent on the machine. -/
theorem mem_send_of_mem_link {outer : Log} {log : Host.Log}
    (h : Spelled (answerCall access) outer log) {request : Request}
    {told : Except Failure Answer} (hmem : ⟨.link (.send request), told⟩ ∈ outer) :
    ⟨.send request, told⟩ ∈ log := by
  obtain ⟨part, hpart, hsub⟩ := h.exists_part hmem
  obtain rfl := branch_query_iff.mp hpart
  exact hsub List.mem_cons_self

/-- A call sends on a machine what it sends. -/
theorem countP_isSend_onHost {outer : Log} {log : Host.Log}
    (h : Spelled (answerCall access) outer log) : log.countP Host.isSend ≤ outer.countP isSend := by
  have hle : log.countP Host.isSend ≤ outer.countP isSend + outer.countP (fun _ => false) * 0 := by
    refine h.countP_le fun question answer inner hinner => ?_
    cases question with
    | warn text => exact atMost_query (fun _ => rfl) _ _ hinner
    | link question =>
      refine Nat.le_of_eq ((Access.countP_answerLink ofSends_isSend access hinner).trans ?_)
      cases question with
      | secret => rfl
      | send request => rfl
  rwa [Nat.mul_zero, Nat.add_zero] at hle

/-! ### Reading an endpoint -/

section Get

variable {decode? : Node → Option α} {default : α}

/-- A call sends one request at the most. -/
theorem countP_isSend_call {body? : Option Value} {base : BaseUrl} {log : Log}
    {result : Except Error α}
    (h : (call base method endpoint body? decode? default).run.Branch log result) :
    log.countP isSend ≤ 1 := by
  obtain ⟨first, read, rest, hrequest, rfl, hrest, _⟩ := branch_call h
  have hnone : rest.countP isSend = 0 := by
    refine List.countP_eq_zero.mpr ?_
    rintro ⟨question, answer⟩ hmem hsend
    cases question with
    | link question => exact hrest _ _ hmem
    | warn text => cases hsend
  rw [List.countP_append, hnone]
  cases branch_request_iff.mp hrequest with
  | unsigned cause => exact Nat.zero_le 1
  | unbuilt built => exact Nat.zero_le 1
  | sent built answer => exact Nat.le_refl 1

/-- Whatever reads an endpoint first and asks nothing else sends that request at the most. -/
theorem forwarded_of_get {β : Type} {f : α → Except Error β} {log : Host.Log}
    {result : Except Error β}
    (h : (onHost access (get access.base endpoint decode? default >>= fun value =>
      ExceptT.mk (done (f value)))).Branch log result) :
    log.countP Host.isSend ≤ 1 ∧
      ∀ x ∈ log, Host.isSend x = true → IsForwarded access.base .get endpoint x := by
  obtain ⟨outer, houter, hspelled⟩ := branch_answerWith_iff.mp h
  -- what is made of the answer asks nothing, so the log is the one of the call
  have hcall : ∃ read : Except Error α,
      (get access.base endpoint decode? default).run.Branch outer read := by
    obtain ⟨e, hcall, _⟩ | ⟨first, value, rest, hcall, hdone, rfl⟩ := branch_run_bind_iff.mp houter
    · exact ⟨_, hcall⟩
    · obtain ⟨rfl, _⟩ := branch_done_iff.mp hdone
      exact ⟨_, (List.append_nil first).symm ▸ hcall⟩
  obtain ⟨read, hread⟩ := hcall
  refine ⟨Nat.le_trans (countP_isSend_onHost hspelled) (countP_isSend_call hread), ?_⟩
  rintro ⟨question, answer⟩ hmem hsend
  cases question with
  | send request =>
    obtain ⟨secret, _, hforwarded⟩ := forwarded_of_call hread (mem_link_of_mem_send hspelled hmem)
    exact ⟨secret, request, answer, hforwarded, rfl⟩
  | _ => cases hsend

end Get

/-- What is sent when an operation without an input is carried out is its request. -/
theorem forwarded_of_perform {op : Operation} (hbody : op.body? = none) {log : Host.Log}
    {result : Except Error String} (h : (onHost access (op.run access.base)).Branch log result) :
    ∀ x ∈ log, Host.isSend x = true → IsForwarded access.base op.method op.endpoint x := by
  obtain ⟨outer, houter, hspelled⟩ := branch_answerWith_iff.mp h
  rintro ⟨question, answer⟩ hmem hsend
  cases question with
  | send request =>
    obtain ⟨secret, _, hforwarded⟩ := forwarded_of_run houter (mem_link_of_mem_send hspelled hmem)
    exact ⟨secret, request, answer, hbody ▸ hforwarded, rfl⟩
  | _ => cases hsend

end MeshControl.Dashboard
