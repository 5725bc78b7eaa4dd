import MeshControl.Dashboard.Client
import MeshControl.Proofs.Dialogue.Branch

/-!
# What a call to the dashboard asks

A call asks for the secret, sends the request that the secret is part of, and passes warnings on
(`branch_call`).  So whatever is sent when an operation is carried out is the request of the operation
with the secret that was given (`forwarded_of_run`), and a request that can be put together is sent
(`branch_run_of_forwarded`).
-/

namespace MeshControl.Dashboard

open Daemon Dialogue MeshControl.Http MeshControl.Json

variable {α : Type} {base : BaseUrl} {method : Method} {endpoint : String} {body? : Option Value}
  {decode? : Node → Option α} {default : α}

/-! ### What a call asks -/

/-- What was asked in a call, with the answers. -/
abbrev Log := List (Exchange Call Call.Answer)

/-- The ways of a request: there is no secret, it cannot be put together, or it is sent and perhaps
answered. -/
inductive Requested (base : BaseUrl) (method : Method) (endpoint : String) (body? : Option Value)
    (decode? : Node → Option α) : Log → Except Error (Envelope α) → Prop
  | unsigned (cause : SecretError) :
    Requested base method endpoint body? decode? [⟨.link .secret, .error cause⟩]
      (.error (.secret cause))
  | unbuilt {secret : Secret} {failure : Failure}
      (built : forwarded base method endpoint body? secret = .error failure) :
    Requested base method endpoint body? decode? [⟨.link .secret, .ok secret⟩]
      (.error (exchangeError (forwardUrl base endpoint) failure))
  | sent {secret : Secret} {asked : Request}
      (built : forwarded base method endpoint body? secret = .ok asked)
      (answer : Except Failure Answer) :
    Requested base method endpoint body? decode?
      [⟨.link .secret, .ok secret⟩, ⟨.link (.send asked), answer⟩]
      ((answer.mapError (exchangeError asked.url.text)).bind (readAnswer decode? endpoint))

/-- What a request does behind the secret: it is sent if it could be put together. -/
def afterSecret (base : BaseUrl) (endpoint : String) (decode? : Node → Option α) :
    Except Failure Request → Dialogue Call Call.Answer (Except Error (Envelope α))
  | .error failure => .done (.error (exchangeError (forwardUrl base endpoint) failure))
  | .ok asked =>
    .ask (.link (.send asked)) fun answer : Except Failure Answer =>
      .done ((answer.mapError (exchangeError asked.url.text)).bind (readAnswer decode? endpoint))

theorem run_request :
    (request base method endpoint body? decode?).run =
      .ask (.link .secret) fun given : Except SecretError Secret =>
        match given with
        | .error cause => .done (.error (.secret cause))
        | .ok secret =>
          afterSecret base endpoint decode? (forwarded base method endpoint body? secret) := by
  have hsend (built : Except Failure Request) :
      (exchange (destination base endpoint built) built >>= fun answer =>
        ExceptT.mk (pure (readAnswer decode? endpoint answer)) : Asking (Envelope α)).run =
      afterSecret base endpoint decode? built := by
    cases built with
    | error failure => rfl
    | ok asked =>
      refine congrArg (Dialogue.ask (Call.link (.send asked))) (funext fun answer => ?_)
      cases answer <;> rfl
  refine congrArg (Dialogue.ask (Call.link .secret)) (funext fun given => ?_)
  cases given with
  | error cause => rfl
  | ok secret => exact hsend (forwarded base method endpoint body? secret)

theorem branch_request_iff {log : Log} {read : Except Error (Envelope α)} :
    (request base method endpoint body? decode?).run.Branch log read ↔
      Requested base method endpoint body? decode? log read := by
  rw [run_request, branch_ask_iff]
  constructor
  · rintro ⟨cause | secret, rest, rfl, h⟩
    · cases h
      exact .unsigned cause
    · dsimp only at h
      cases hbuilt : forwarded base method endpoint body? secret with
      | error failure =>
        rw [hbuilt] at h
        cases h
        exact .unbuilt hbuilt
      | ok asked =>
        rw [hbuilt] at h
        obtain ⟨answer, _, rfl, ⟨⟩⟩ := branch_ask_iff.mp h
        exact .sent hbuilt answer
  · intro h
    cases h with
    | unsigned cause => exact ⟨.error cause, [], rfl, .done _⟩
    | @unbuilt secret failure hbuilt =>
      refine ⟨.ok secret, [], rfl, ?_⟩
      simp only [hbuilt]
      exact .done _
    | @sent secret asked hbuilt answer =>
      refine ⟨.ok secret, [_], rfl, ?_⟩
      simp only [hbuilt]
      exact branch_ask_iff.mpr ⟨answer, [], rfl, .done _⟩

/-- Nothing is sent while warnings are passed on. -/
theorem notMem_of_branch_warnAll {texts : List String} {log : Log}
    (h : (warnAll texts).Branch log ()) {question : Link.Call} {answer : question.Answer} :
    ⟨.link question, answer⟩ ∉ log := by
  induction texts generalizing log with
  | nil =>
    cases h
    exact List.not_mem_nil
  | cons text rest ih =>
    cases h with
    | ask _ h =>
      intro hmem
      rcases List.mem_cons.mp hmem with heq | hmem
      · cases heq
      · exact ih h hmem

/-- What an envelope says: its payload, or the default if it reports success without one. -/
def Envelope.told (envelope : Envelope α) (default : α) : Except Error α :=
  if envelope.isSuccess then .ok (envelope.payload?.getD default)
  else .error (.rejected envelope.failureMessage)

/-- A call is a request, and nothing is asked behind it. -/
theorem branch_call {log : Log} {result : Except Error α}
    (h : (call base method endpoint body? decode? default).run.Branch log result) :
    ∃ first read rest, (request base method endpoint body? decode?).run.Branch first read ∧
      log = first ++ rest ∧ (∀ question answer, ⟨.link question, answer⟩ ∉ rest) ∧
      result = read.bind fun envelope => envelope.told default := by
  obtain ⟨e, hrequest, rfl⟩ | ⟨first, envelope, rest, hrequest, htell, rfl⟩ :=
    branch_run_bind_iff.mp h
  · exact ⟨log, .error e, [], hrequest, (List.append_nil log).symm, fun _ _ => List.not_mem_nil,
      rfl⟩
  · refine ⟨first, .ok envelope, rest, hrequest, rfl, ?_⟩
    by_cases success : envelope.isSuccess = true
    · rw [if_pos success] at htell
      obtain ⟨e, hwarn, _⟩ | ⟨warned, _, _, hwarn, hdone, rfl⟩ := branch_run_bind_iff.mp htell
      · obtain ⟨_, _, _, _, hok, _⟩ := branch_bind_iff.mp hwarn
        cases hok
      · obtain ⟨_, _, _, htexts, hok, rfl⟩ := branch_bind_iff.mp hwarn
        cases hok
        cases hdone
        rw [List.append_nil, List.append_nil]
        exact ⟨fun _ _ => notMem_of_branch_warnAll htexts, (if_pos success).symm⟩
    · rw [if_neg success] at htell
      cases htell
      exact ⟨fun _ _ => List.not_mem_nil, (if_neg success).symm⟩

/-! ### What is sent -/

section Sent

variable {log : Log} {asked : Request} {answer : Except Failure Answer}

/-- What is sent in a request is put together from the endpoint and the secret that was given. -/
theorem Requested.forwarded {read : Except Error (Envelope α)}
    (h : Requested base method endpoint body? decode? log read)
    (sent : ⟨.link (.send asked), answer⟩ ∈ log) :
    ∃ secret, ⟨.link .secret, .ok secret⟩ ∈ log ∧
      forwarded base method endpoint body? secret = .ok asked := by
  cases h with
  | unsigned cause => cases List.mem_singleton.mp sent
  | unbuilt built => cases List.mem_singleton.mp sent
  | @sent secret _ built =>
    rcases List.mem_cons.mp sent with heq | sent
    · cases heq
    · cases List.mem_singleton.mp sent
      exact ⟨secret, List.mem_cons_self, built⟩

theorem forwarded_of_call {result : Except Error α}
    (h : (call base method endpoint body? decode? default).run.Branch log result)
    (sent : ⟨.link (.send asked), answer⟩ ∈ log) :
    ∃ secret, ⟨.link .secret, .ok secret⟩ ∈ log ∧
      forwarded base method endpoint body? secret = .ok asked := by
  obtain ⟨first, _, rest, hrequest, rfl, hrest, _⟩ := branch_call h
  obtain ⟨secret, hsecret, hforwarded⟩ :=
    (branch_request_iff.mp hrequest).forwarded ((List.mem_append.mp sent).resolve_right (hrest _ _))
  exact ⟨secret, List.mem_append_left rest hsecret, hforwarded⟩

/-- An operation that makes sense is one call, and what comes back is shown. -/
theorem Operation.run_eq_call (op : Operation) (base : BaseUrl) (h : op.objection? = none) :
    ∃ (α : Type) (decode? : Node → Option α) (default : α) (tell : α → String),
      op.run base = do
        return tell (← call base op.method op.endpoint op.body? decode? default) := by
  rw [Operation.run, h]
  cases op <;> exact ⟨_, _, _, _, rfl⟩

/-- What is sent when an operation is carried out is the request of the operation. -/
theorem forwarded_of_run {op : Operation} {result : Except Error String}
    (h : (op.run base).run.Branch log result) (sent : ⟨.link (.send asked), answer⟩ ∈ log) :
    ∃ secret, ⟨.link .secret, .ok secret⟩ ∈ log ∧
      forwarded base op.method op.endpoint op.body? secret = .ok asked := by
  cases hobjection : op.objection? with
  | some message =>
    rw [Operation.run, hobjection] at h
    cases h
    cases sent
  | none =>
    obtain ⟨_, _, _, _, hrun⟩ := op.run_eq_call base hobjection
    rw [hrun] at h
    obtain ⟨e, hcall, _⟩ | ⟨first, value, _, hcall, hdone, rfl⟩ := branch_run_bind_iff.mp h
    · exact forwarded_of_call hcall sent
    · cases hdone
      rw [List.append_nil] at sent ⊢
      exact forwarded_of_call hcall sent

/-- The request of an operation is sent if it can be put together. -/
theorem branch_run_of_forwarded {op : Operation} {secret : Secret} (h : op.objection? = none)
    (hforwarded : forwarded base op.method op.endpoint op.body? secret = .ok asked) :
    (op.run base).run.Branch
      [⟨.link .secret, .ok secret⟩, ⟨.link (.send asked), .error .refused⟩] (.error .refused) := by
  obtain ⟨_, _, _, _, hrun⟩ := op.run_eq_call base h
  rw [hrun]
  refine branch_run_bind_iff.mpr (.inl ⟨.refused, ?_, rfl⟩)
  refine branch_run_bind_iff.mpr (.inl ⟨.refused, ?_, rfl⟩)
  exact branch_request_iff.mpr (.sent hforwarded (.error .refused))

/-- The address of a daemon on the same machine. -/
def loopback : BaseUrl :=
  ⟨"http://[::1]:16216"⟩

end Sent

end MeshControl.Dashboard
