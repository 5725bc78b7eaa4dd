import MeshControl.Daemon.Client
import MeshControl.Proofs.Dialogue.Branch

/-!
# One attempt at an errand

What is asked in one attempt to read from a route or to post to it, as an inductive predicate on
logs (`Attempted`): the secret is asked for if there is something to post, and then at most one
request is sent.  An attempt is refused if and only if its request was (`Attempted.wasRefused_iff`),
so no request of a refused attempt was let through.
-/

namespace MeshControl.Daemon

open Dialogue MeshControl.Http MeshControl.Json

/-- What is to be done at a route of the daemon. -/
inductive Errand where
  | get (route : String)
  | post (route : String) (fields : List (String × String))

namespace Errand

/-- The route of an errand. -/
def route : Errand → String
  | get route => route
  | post route _ => route

/-- The method of an errand. -/
def method : Errand → Method
  | get _ => .get
  | post _ _ => .post

variable {α : Type}

/-- One attempt at an errand. -/
def once (decode? : Node → Option α) (default : α) (base : BaseUrl) :
    Errand → Link.Asking (Except Error α)
  | get route => getOnce decode? default base route
  | post route fields => postOnce decode? default base route fields

/-- An errand run by a client. -/
def run (c : Client) (decode? : Node → Option α) (default : α) (mayRetry : Bool) :
    Errand → Client.Asking (Except Error α)
  | get route => c.get decode? default route mayRetry
  | post route fields => c.post decode? default route fields mayRetry

theorem run_eq_call (c : Client) (decode? : Node → Option α) (default : α) (mayRetry : Bool)
    (e : Errand) :
    e.run c decode? default mayRetry = c.call mayRetry (e.once decode? default c.base) := by
  cases e <;> rfl

end Errand

/-- Whether the result of an attempt is that nobody listens. -/
def wasRefused {α : Type} : Except Error α → Bool
  | .error e => e.isRefused
  | .ok _ => false

theorem wasRefused_iff {α : Type} {result : Except Error α} :
    wasRefused result = true ↔ ∃ url, result = .error (.refused url) := by
  rcases result with e | value
  · cases e <;> simp [wasRefused, Error.isRefused]
  · simp [wasRefused]

namespace Link

/-- What was asked in an attempt, with the answers. -/
abbrev Log := List (Exchange Call Call.Answer)

/-- Whether an exchange is a request that is sent. -/
def isSend : Exchange Call Call.Answer → Bool
  | ⟨.send _, _⟩ => true
  | ⟨.secret, _⟩ => false

/-- Whether an exchange is a request that is not refused. -/
def isUnrefused : Exchange Call Call.Answer → Bool
  | ⟨.send _, .error .refused⟩ => false
  | ⟨.send _, _⟩ => true
  | ⟨.secret, _⟩ => false

/-- The preparation of an errand: what is asked before the request is put together, and that. -/
inductive Prepared (base : BaseUrl) : Errand → Log → Except Failure Request → Prop
  | get (route : String) {built : Except Failure Request}
      (build : Request.build .get (base.route route) [] none .empty = built) :
      Prepared base (.get route) [] built
  | post (route : String) (fields : List (String × String)) (secret : Secret)
      {built : Except Failure Request}
      (build : Request.build .post (base.route route) [] none (.form (signed fields secret)) =
        built) :
      Prepared base (.post route fields) [⟨.secret, .ok secret⟩] built

/-- One attempt at an errand. -/
inductive Attempted {α : Type} (decode? : Node → Option α) (default : α) (base : BaseUrl)
    (e : Errand) : Log → Except Error α → Prop
  | unsigned (signs : e.method = .post) (cause : SecretError) :
      Attempted decode? default base e [⟨.secret, .error cause⟩] (.error (.secret cause))
  | unbuilt {log : Log} {failure : Failure} (prepared : Prepared base e log (.error failure)) :
      Attempted decode? default base e log (.error (exchangeError (base.route e.route) failure))
  | sent {log : Log} {request : Request} (prepared : Prepared base e log (.ok request))
      (answer : Except Failure Answer) :
      Attempted decode? default base e (log ++ [⟨.send request, answer⟩])
        (exchangeResult decode? default base e.route answer)

variable {α : Type} {decode? : Node → Option α} {default : α} {base : BaseUrl} {e : Errand}
  {log : Log} {result : Except Error α}

/-- The part of an attempt behind its preparation. -/
theorem branch_send_iff {built : Except Failure Request} :
    ((send built).bind fun answer =>
        done (exchangeResult decode? default base e.route answer)).Branch log result ↔
      (∃ failure, built = .error failure ∧ log = [] ∧
        result = .error (exchangeError (base.route e.route) failure)) ∨
      ∃ request answer, built = .ok request ∧ log = [⟨.send request, answer⟩] ∧
        result = exchangeResult decode? default base e.route answer := by
  rw [branch_bind_iff]
  cases built with
  | error failure =>
    simp only [send, pure_eq, branch_done_iff, exchangeResult]
    constructor
    · rintro ⟨first, value, rest, ⟨rfl, rfl⟩, ⟨rfl, rfl⟩, rfl⟩
      exact .inl ⟨failure, rfl, rfl, rfl⟩
    · rintro (⟨_, heq, rfl, rfl⟩ | ⟨_, _, heq, _⟩)
      · cases heq
        exact ⟨[], .error failure, [], ⟨rfl, rfl⟩, ⟨rfl, rfl⟩, rfl⟩
      · cases heq
  | ok request =>
    simp only [send, branch_query_iff, branch_done_iff]
    constructor
    · rintro ⟨first, answer, rest, rfl, ⟨rfl, rfl⟩, rfl⟩
      exact .inr ⟨request, answer, rfl, rfl, rfl⟩
    · rintro (⟨_, heq, _⟩ | ⟨_, answer, heq, rfl, rfl⟩)
      · cases heq
      · cases heq
        exact ⟨_, answer, [], rfl, ⟨rfl, rfl⟩, rfl⟩

theorem branch_once_iff :
    (e.once decode? default base).Branch log result ↔
      Attempted decode? default base e log result := by
  cases e with
  | get route =>
    refine (branch_send_iff (e := .get route)).trans ?_
    constructor
    · rintro (⟨failure, hbuilt, rfl, rfl⟩ | ⟨request, answer, hbuilt, rfl, rfl⟩)
      · exact .unbuilt (.get route hbuilt)
      · exact .sent (.get route hbuilt) answer
    · intro h
      cases h with
      | unsigned signs cause => cases signs
      | unbuilt prepared =>
        obtain ⟨_, hbuilt⟩ := prepared
        exact .inl ⟨_, hbuilt, rfl, rfl⟩
      | sent prepared answer =>
        obtain ⟨_, hbuilt⟩ := prepared
        exact .inr ⟨_, answer, hbuilt, rfl, rfl⟩
  | post route fields =>
    constructor
    · intro h
      cases h with
      | ask answer rest =>
        cases answer with
        | error cause =>
          obtain ⟨rfl, rfl⟩ := branch_done_iff.mp rest
          exact .unsigned rfl cause
        | ok secret =>
          rcases (branch_send_iff (e := .post route fields)).mp rest with
            ⟨failure, hbuilt, rfl, rfl⟩ | ⟨request, answer, hbuilt, rfl, rfl⟩
          · exact .unbuilt (.post route fields secret hbuilt)
          · exact .sent (.post route fields secret hbuilt) answer
    · intro h
      cases h with
      | unsigned signs cause => exact .ask _ (.done _)
      | unbuilt prepared =>
        obtain _ | ⟨_, _, secret, hbuilt⟩ := prepared
        refine .ask _ ?_
        exact (branch_send_iff (e := .post route fields)).mpr (.inl ⟨_, hbuilt, rfl, rfl⟩)
      | sent prepared answer =>
        obtain _ | ⟨_, _, secret, hbuilt⟩ := prepared
        refine .ask _ ?_
        exact (branch_send_iff (e := .post route fields)).mpr (.inr ⟨_, answer, hbuilt, rfl, rfl⟩)

/-! ### What an attempt sends -/

/-- Putting a request together fails without a word from the machine, or gives a request with the
method that was asked for. -/
theorem build_cases (method : Method) (url : String) (fields : List (String × String))
    (authorization? : Option String) (body : Body) :
    (∃ url? cause, Request.build method url fields authorization? body =
        .error (.unbuildable url? cause)) ∨
      ∃ address, Request.build method url fields authorization? body =
        .ok ⟨method, address, authorization?, body⟩ := by
  unfold Request.build
  split
  · exact .inl ⟨_, _, rfl⟩
  · -- whether fields are added to the query makes no difference to what follows
    rename_i read _
    dsimp only
    generalize (if fields.isEmpty then read else read.withFields fields) = address
    by_cases hheader : (!(authorization?.all isHeaderText)) = true
    · rw [if_pos hheader]
      exact .inl ⟨_, _, rfl⟩
    · rw [if_neg hheader]
      cases address.refusal? with
      | some cause => exact .inl ⟨_, _, rfl⟩
      | none => exact .inr ⟨_, rfl⟩

/-- A request goes to the address that was asked for. -/
theorem read_of_build {method : Method} {url : String} {authorization? : Option String} {body : Body}
    {request : Request} (h : Request.build method url [] authorization? body = .ok request) :
    Url.read url = .ok request.url := by
  unfold Request.build at h
  split at h
  · cases h
  · rename_i read hread
    rw [if_pos List.isEmpty_nil] at h
    dsimp only at h
    split at h
    · cases h
    · split at h
      · cases h
      · cases h
        exact hread

/-- A request cannot be put together only because of its address: it cannot be read, or no request goes
there. -/
theorem refusal_of_build {method : Method} {url : String} {body : Body} {failure : Failure}
    (h : Request.build method url [] none body = .error failure) {address : Url}
    (hread : Url.read url = .ok address) : address.refusal?.isSome = true := by
  have hheader : ¬(!Option.all isHeaderText none) = true := Bool.false_ne_true
  unfold Request.build at h
  rw [hread] at h
  dsimp only at h
  rw [if_pos List.isEmpty_nil, if_neg hheader] at h
  cases hrefusal : address.refusal? with
  | some cause => rfl
  | none =>
    rw [hrefusal] at h
    cases h

/-- What an answer says is never that nobody listens. -/
theorem wasRefused_readReply {route : String} {answer : Answer} :
    wasRefused (readReply decode? default route answer) = false := by
  rw [readReply]
  split
  · rfl
  · split <;> rfl

theorem wasRefused_exchangeResult {route : String} {answer : Except Failure Answer} :
    wasRefused (exchangeResult decode? default base route answer) = true ↔
      answer = .error .refused := by
  rcases answer with failure | answer
  · cases failure <;> simp [exchangeResult, exchangeError, wasRefused, Error.isRefused]
  · simp [exchangeResult, wasRefused_readReply]

theorem Prepared.forall_mem {built : Except Failure Request} (h : Prepared base e log built) :
    ∀ x ∈ log, ∃ secret, x = ⟨.secret, .ok secret⟩ := by
  intro x hx
  cases h with
  | get route build => exact absurd hx List.not_mem_nil
  | post route fields secret build => exact ⟨secret, List.mem_singleton.mp hx⟩

/-- A request that was prepared has the method of the errand. -/
theorem Prepared.method_eq {request : Request} (h : Prepared base e log (.ok request)) :
    request.method = e.method := by
  have hbuild : ∃ url body, Request.build e.method url [] none body = .ok request := by
    cases h with
    | get route build => exact ⟨_, _, build⟩
    | post route fields secret build => exact ⟨_, _, build⟩
  obtain ⟨url, body, hbuild⟩ := hbuild
  rcases build_cases e.method url [] none body with ⟨url?, cause, heq⟩ | ⟨address, heq⟩
  · cases hbuild.symm.trans heq
  · cases hbuild.symm.trans heq
    rfl

/-- Nobody has refused anything before the request is sent. -/
theorem Prepared.failure_ne {failure : Failure} (h : Prepared base e log (.error failure)) :
    failure ≠ .refused := by
  have hbuild : ∃ url body, Request.build e.method url [] none body = .error failure := by
    cases h with
    | get route build => exact ⟨_, _, build⟩
    | post route fields secret build => exact ⟨_, _, build⟩
  obtain ⟨url, body, hbuild⟩ := hbuild
  rcases build_cases e.method url [] none body with ⟨url?, cause, heq⟩ | ⟨address, heq⟩
  · cases hbuild.symm.trans heq
    intro hrefused
    cases hrefused
  · cases hbuild.symm.trans heq

/-- **An attempt is refused exactly if its request was.** -/
theorem Attempted.wasRefused_iff (h : Attempted decode? default base e log result) :
    wasRefused result = true ↔ ∃ request, ⟨.send request, .error .refused⟩ ∈ log := by
  cases h with
  | unsigned signs cause => simp [wasRefused, Error.isRefused]
  | @unbuilt _ failure prepared =>
    constructor
    · intro hrefused
      have hresult :
          wasRefused (exchangeResult decode? default base e.route (.error failure)) = true :=
        hrefused
      have hfailure : failure = .refused := Except.error.inj (wasRefused_exchangeResult.mp hresult)
      exact absurd hfailure prepared.failure_ne
    · rintro ⟨request, hmem⟩
      obtain ⟨secret, heq⟩ := prepared.forall_mem _ hmem
      cases heq
  | @sent before request prepared answer =>
    rw [wasRefused_exchangeResult]
    constructor
    · rintro rfl
      exact ⟨request, List.mem_append_right _ (List.mem_singleton_self _)⟩
    · rintro ⟨other, hmem⟩
      rcases List.mem_append.mp hmem with hmem | hmem
      · obtain ⟨secret, heq⟩ := prepared.forall_mem _ hmem
        cases heq
      · cases List.mem_singleton.mp hmem
        rfl

/-- The preparation of an errand sends nothing. -/
theorem Prepared.countP_eq {built : Except Failure Request} (h : Prepared base e log built)
    {p : Exchange Call Call.Answer → Bool} (hp : ∀ secret, p ⟨.secret, .ok secret⟩ = false) :
    log.countP p = 0 := by
  refine List.countP_eq_zero.mpr fun x hx => ?_
  obtain ⟨secret, rfl⟩ := h.forall_mem x hx
  exact Bool.eq_false_iff.mp (hp secret)

/-- An attempt sends at most one request. -/
theorem Attempted.countP_isSend_le (h : Attempted decode? default base e log result) :
    log.countP isSend ≤ 1 := by
  cases h with
  | unsigned signs cause => exact Nat.zero_le 1
  | unbuilt prepared =>
    rw [prepared.countP_eq fun _ => rfl]
    exact Nat.zero_le 1
  | sent prepared answer =>
    rw [List.countP_append, prepared.countP_eq fun _ => rfl]
    exact Nat.le_refl 1

/-- What is not refused was sent. -/
theorem countP_isUnrefused_le (log : Log) : log.countP isUnrefused ≤ log.countP isSend := by
  refine List.countP_mono_left ?_
  rintro ⟨_ | request, answer⟩ _ hunrefused
  · cases hunrefused
  · rfl

/-- **The request of a refused attempt is refused.** -/
theorem Attempted.countP_isUnrefused_eq_zero (h : Attempted decode? default base e log result)
    (refused : wasRefused result = true) : log.countP isUnrefused = 0 := by
  cases h with
  | unsigned signs cause => rfl
  | unbuilt prepared => exact prepared.countP_eq fun _ => rfl
  | sent prepared answer =>
    obtain rfl := wasRefused_exchangeResult.mp refused
    rw [List.countP_append, prepared.countP_eq fun _ => rfl]
    rfl

/-- An attempt without a secret asks for nothing else. -/
theorem Attempted.eq_of_unsigned (h : Attempted decode? default base e log result)
    {cause : SecretError} (hmem : ⟨.secret, .error cause⟩ ∈ log) :
    log = [⟨.secret, .error cause⟩] ∧ result = .error (.secret cause) := by
  cases h with
  | unsigned signs other =>
    cases List.mem_singleton.mp hmem
    exact ⟨rfl, rfl⟩
  | unbuilt prepared =>
    obtain ⟨secret, heq⟩ := prepared.forall_mem _ hmem
    cases heq
  | sent prepared answer =>
    rcases List.mem_append.mp hmem with hmem | hmem
    · obtain ⟨secret, heq⟩ := prepared.forall_mem _ hmem
      cases heq
    · cases List.mem_singleton.mp hmem

/-- What an attempt sends was prepared for its errand, and the exchange is what it results in. -/
theorem Attempted.sent_of_mem (h : Attempted decode? default base e log result) {request : Request}
    {answer : Except Failure Answer} (hmem : ⟨.send request, answer⟩ ∈ log) :
    (∃ before, Prepared base e before (.ok request)) ∧
      result = exchangeResult decode? default base e.route answer := by
  cases h with
  | unsigned signs cause => cases List.mem_singleton.mp hmem
  | unbuilt prepared =>
    obtain ⟨secret, heq⟩ := prepared.forall_mem _ hmem
    cases heq
  | sent prepared other =>
    rcases List.mem_append.mp hmem with hmem | hmem
    · obtain ⟨secret, heq⟩ := prepared.forall_mem _ hmem
      cases heq
    · cases List.mem_singleton.mp hmem
      exact ⟨⟨_, prepared⟩, rfl⟩

/-- Every request of an attempt has the method of its errand. -/
theorem Attempted.method_eq (h : Attempted decode? default base e log result) {request : Request}
    {answer : Except Failure Answer} (hmem : ⟨.send request, answer⟩ ∈ log) :
    request.method = e.method := by
  obtain ⟨⟨before, prepared⟩, _⟩ := h.sent_of_mem hmem
  exact prepared.method_eq

/-- An attempt that sends nothing lacks its secret, or its request cannot be put together. -/
theorem Attempted.unsent (h : Attempted decode? default base e log result)
    (hnone : ∀ request answer, ⟨.send request, answer⟩ ∉ log) :
    (∃ cause, result = .error (.secret cause)) ∨
      ∃ before failure, Prepared base e before (.error failure) := by
  cases h with
  | unsigned signs cause => exact .inl ⟨cause, rfl⟩
  | unbuilt prepared => exact .inr ⟨log, _, prepared⟩
  | sent prepared answer =>
    exact absurd (List.mem_append_right _ List.mem_cons_self) (hnone _ answer)

/-- An attempt succeeds only if it was answered. -/
theorem Attempted.exists_answer (h : Attempted decode? default base e log result) {value : α}
    (hvalue : result = .ok value) : ∃ request answer, ⟨.send request, .ok answer⟩ ∈ log := by
  cases h with
  | unsigned signs cause => cases hvalue
  | unbuilt prepared => cases hvalue
  | @sent before request prepared answer =>
    rcases answer with failure | told
    · cases hvalue
    · exact ⟨request, told, List.mem_append_right before (List.mem_singleton_self _)⟩

end Link

end MeshControl.Daemon
