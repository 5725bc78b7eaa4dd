import MeshControl.Proofs.Daemon.Rejection
import MeshControl.Proofs.Dashboard.Requests
import MeshControl.Proofs.Except
import MeshControl.Proofs.Text.Utf8

/-!
# Envelopes that report a failure

A call to the dashboard that was answered results in what the answer says (`result_eq_outcome`).  As
with the daemon, an envelope that is no success says so however it looks otherwise, except that its
payload has to be one that could have been read, because the whole envelope is read before its kind
is looked at.  `rejection_told_iff` says for both exactly which answers are told as rejections.
-/

namespace MeshControl.Dashboard

open Daemon Dialogue MeshControl.Http MeshControl.Json MeshControl.Text

variable {α : Type} {base : BaseUrl} {method : Method} {endpoint : String} {body? : Option Value}
  {decode? : Node → Option α} {default : α}

/-! ### Calls that were answered -/

/-- What an answer says: what the envelope in it says. -/
def outcome (decode? : Node → Option α) (default : α) (endpoint : String) (answer : Answer) :
    Except Error α :=
  (readAnswer decode? endpoint answer).bind fun envelope => envelope.told default

section Answered

variable {log : Log} {asked : Request} {answer : Answer}

/-- A request that was answered yields the envelope in the answer. -/
theorem Requested.read_eq {read : Except Error (Envelope α)}
    (h : Requested base method endpoint body? decode? log read)
    (answered : ⟨.link (.send asked), .ok answer⟩ ∈ log) :
    read = readAnswer decode? endpoint answer := by
  cases h with
  | unsigned cause => cases List.mem_singleton.mp answered
  | unbuilt built => cases List.mem_singleton.mp answered
  | sent built =>
    rcases List.mem_cons.mp answered with heq | answered
    · cases heq
    · cases List.mem_singleton.mp answered
      rfl

/-- A call that was answered results in what the answer says. -/
theorem result_eq_outcome {result : Except Error α}
    (h : (call base method endpoint body? decode? default).run.Branch log result)
    (answered : ⟨.link (.send asked), .ok answer⟩ ∈ log) :
    result = outcome decode? default endpoint answer := by
  obtain ⟨first, read, rest, hrequest, rfl, hrest, rfl⟩ := branch_call h
  have hfirst := (List.mem_append.mp answered).resolve_right (hrest _ _)
  rw [outcome, (branch_request_iff.mp hrequest).read_eq hfirst]

/-- The last request of a log and the answer to it: nothing but warnings stands behind them. -/
def LastAnswered (log : Log) (asked : Request) (answer : Answer) : Prop :=
  ∃ before after, log = before ++ ⟨.link (.send asked), .ok answer⟩ :: after ∧
    ∀ question given, ⟨.link question, given⟩ ∉ after

theorem LastAnswered.mem (h : LastAnswered log asked answer) :
    ⟨.link (.send asked), .ok answer⟩ ∈ log := by
  obtain ⟨before, after, rfl, _⟩ := h
  exact List.mem_append_right before List.mem_cons_self

theorem LastAnswered.prepend (h : LastAnswered log asked answer) (first : Log) :
    LastAnswered (first ++ log) asked answer := by
  obtain ⟨before, after, rfl, hafter⟩ := h
  exact ⟨first ++ before, after, (List.append_assoc _ _ _).symm, hafter⟩

/-- A call that succeeds was answered, by an envelope that reports success. -/
theorem lastAnswered_of_call {value : α}
    (h : (call base method endpoint body? decode? default).run.Branch log (.ok value)) :
    ∃ secret asked answer envelope, forwarded base method endpoint body? secret = .ok asked ∧
      LastAnswered log asked answer ∧ readAnswer decode? endpoint answer = .ok envelope ∧
      value = envelope.payload?.getD default := by
  obtain ⟨first, read, rest, hrequest, rfl, hrest, hvalue⟩ := branch_call h
  cases branch_request_iff.mp hrequest with
  | unsigned cause => cases hvalue
  | unbuilt built => cases hvalue
  | @sent secret asked built answer =>
    cases answer with
    | error failure => cases hvalue
    | ok answer =>
      change _ = (readAnswer decode? endpoint answer).bind _ at hvalue
      obtain ⟨envelope, hread, htold⟩ := bind_eq_ok_iff.mp hvalue.symm
      refine ⟨secret, asked, answer, envelope, built,
        ⟨[⟨.link .secret, .ok secret⟩], rest, rfl, hrest⟩, hread, ?_⟩
      rw [Envelope.told] at htold
      by_cases success : envelope.isSuccess = true
      · rw [if_pos success] at htold
        exact (Except.ok.inj htold).symm
      · rw [if_neg success] at htold
        cases htold

/-- The envelope in an answer is read from its body. -/
theorem ofNode?_of_readAnswer {envelope : Envelope α}
    (h : readAnswer decode? endpoint answer = .ok envelope) :
    ∃ body, Node.ofBytes? answer.body = some body ∧
      Envelope.ofNode? decode? body = some envelope := by
  rw [readAnswer] at h
  split at h
  · split at h
    · rename_i hread
      cases h
      exact Option.bind_eq_some_iff.mp hread
    · cases h
  · cases h

end Answered

/-! ### Envelopes -/

/-- The texts of a list as it is written. -/
def textNodes (texts : List String) : Node :=
  .array (texts.map fun text => .string (some text))

/-- The members of an envelope that is no success, with its payload, if it has one. -/
structure Envelope.Rejects (members : List (Option String × Node)) (errors : List String)
    (payload? : Option Node) : Prop where
  isSome : ∀ m ∈ members, m.1.isSome = true
  under_type : ∃ kind, under "type" members = [.string (some kind)] ∧ kind ≠ "success"
  under_errors : under "errors" members = [textNodes errors]
  under_warnings : under "warnings" members = [] ∨
    ∃ warnings, under "warnings" members = [textNodes warnings]
  under_message : under "message" members = [] ∨
    ∃ message, under "message" members = [.string (some message)]
  under_payload : under "payload" members = payload?.toList

/-- Why an envelope with these errors is no success. -/
def failureText (errors : List String) : String :=
  match errors.head? with
  | some first => "API request failed. Message: " ++ first
  | none => "API request failed."

variable {members : List (Option String × Node)} {errors : List String} {payload? : Option Node}

theorem texts?_textNodes (texts : List String) : Node.texts? (textNodes texts) = some texts := by
  rw [Node.texts?, textNodes, Node.list?]
  induction texts with
  | nil => rfl
  | cons text rest ih => rw [List.map_cons, List.mapM_cons, ih]; rfl

theorem Envelope.Rejects.isPlain (h : Envelope.Rejects members errors payload?) :
    IsPlain Envelope.fieldNames members where
  isSome := h.isSome
  once := by
    obtain ⟨_, htype, _⟩ := h.under_type
    have hwarnings : (under "warnings" members).length ≤ 1 := by
      rcases h.under_warnings with hnone | ⟨_, hone⟩ <;> simp [*]
    have hmessage : (under "message" members).length ≤ 1 := by
      rcases h.under_message with hnone | ⟨_, hone⟩ <;> simp [*]
    simp only [Envelope.fieldNames, List.forall_mem_cons, htype, h.under_errors, h.under_payload]
    cases payload? <;> simp [hwarnings, hmessage]

/-- An envelope that rejects is read exactly if its payload can be. -/
theorem Envelope.ofNode?_of_rejects (decode? : Node → Option α)
    (h : Envelope.Rejects members errors payload?) :
    (IsReadable decode? payload? → ∃ envelope, Envelope.ofNode? decode? (.object members) =
      some envelope ∧ envelope.errors = errors ∧ envelope.isSuccess = false) ∧
    (¬ IsReadable decode? payload? → Envelope.ofNode? decode? (.object members) = none) := by
  obtain ⟨fields, hfields, hfind⟩ := Node.fields?_object h.isPlain
  obtain ⟨kind, htype, hkind⟩ := h.under_type
  have hkindText : fields.text? "type" = some kind := by
    rw [Fields.text?, Fields.get?, hfind "type" (by simp [fieldNames]), htype]
    rfl
  have herrors : fields.texts? "errors" = some errors := by
    rw [Fields.texts?, Fields.get?, hfind "errors" (by simp [fieldNames]), h.under_errors]
    exact texts?_textNodes errors
  obtain ⟨warnings, hwarnings⟩ : ∃ warnings, fields.texts? "warnings" = some warnings := by
    rw [Fields.texts?, Fields.get?, hfind "warnings" (by simp [fieldNames])]
    rcases h.under_warnings with hnone | ⟨warnings, hone⟩
    · exact ⟨[], by rw [hnone]; rfl⟩
    · exact ⟨warnings, by rw [hone]; exact texts?_textNodes warnings⟩
  obtain ⟨message, hmessage⟩ : ∃ message, fields.text? "message" = some message := by
    rw [Fields.text?, Fields.get?, hfind "message" (by simp [fieldNames])]
    rcases h.under_message with hnone | ⟨message, hone⟩
    · exact ⟨"", by rw [hnone]; rfl⟩
    · exact ⟨message, by rw [hone]; rfl⟩
  have hpayload : fields.find? "payload" = payload? := by
    rw [hfind "payload" (by simp [fieldNames]), h.under_payload, Option.head?_toList]
  rw [← hpayload, ← isSome_get?_nullable "payload", Envelope.ofNode?, hfields]
  simp only [Bind.bind, Option.bind_some, hkindText, herrors, hwarnings, hmessage]
  cases fields.get? "payload" (Node.nullable? decode?) none with
  | none => exact ⟨fun hread => absurd hread Bool.false_ne_true, fun _ => rfl⟩
  | some value? =>
    refine ⟨fun _ => ⟨_, rfl, rfl, ?_⟩, fun hnot => absurd rfl hnot⟩
    exact beq_eq_false_iff_ne.mpr hkind

/-- An answer that rejects is told as a rejection exactly if its payload can be read. -/
theorem outcome_of_rejects (decode? : Node → Option α) (default : α) (endpoint : String)
    (answer : Answer) (success : isSuccess answer.status = true)
    (body : Node.ofBytes? answer.body = some (.object members))
    (h : Envelope.Rejects members errors payload?) :
    (IsReadable decode? payload? →
      outcome decode? default endpoint answer = .error (.rejected (failureText errors))) ∧
    (¬ IsReadable decode? payload? →
      outcome decode? default endpoint answer = .error (.undecodable endpoint)) := by
  obtain ⟨hread, hunread⟩ := Envelope.ofNode?_of_rejects decode? h
  rw [outcome, readAnswer, if_pos success, body, Option.bind_some]
  constructor
  · intro readable
    obtain ⟨envelope, henvelope, rfl, hkind⟩ := hread readable
    rw [henvelope]
    show envelope.told default = _
    rw [Envelope.told, if_neg (by rw [hkind]; exact Bool.false_ne_true)]
    rfl
  · intro unreadable
    rw [hunread unreadable]
    rfl

/-! ### Which rejections are told -/

/-- A value that is told as one thing or as another is told as the first exactly in its case. -/
theorem told_iff {β : Type} {p : Prop} {x a b : β} (h : (p → x = a) ∧ (¬p → x = b))
    (hne : a ≠ b) : (x = a ↔ p) ∧ (¬p → x = b) := by
  refine ⟨⟨fun hx => Classical.byContradiction fun hp => ?_, h.1⟩, h.2⟩
  exact hne (hx.symm.trans (h.2 hp))

/-- **An answer that rejects is told as a rejection exactly if what it carries beside can be read**:
it carries nothing, null or a value of the expected form.  Otherwise it is told as one that cannot
be decoded.  This holds for every errand at the daemon and every call to the dashboard, once it was
answered, and for every decoder; the one for results that nobody looks at reads everything. -/
theorem rejection_told_iff {α : Type} (decode? : Node → Option α) (default : α)
    (members : List (Option String × Node)) (carried? : Option Node) :
    (∀ (e : Errand) (c : Client) (mayRetry : Bool) (log : Client.Log)
      (result : Except Daemon.Error α) (asked : Request) (answer : Answer) (status error : String),
      (e.run c decode? default mayRetry).Branch log result →
      ⟨.link (.send asked), .ok answer⟩ ∈ log →
      Node.ofText? (Utf8.decodeLossy answer.body) = some (.object members) →
      Reply.Rejects members status error carried? →
      (result = .error (.rejected status error) ↔ IsReadable decode? carried?) ∧
        (¬ IsReadable decode? carried? → result = .error (.undecodable e.route))) ∧
    (∀ (base : BaseUrl) (method : Method) (endpoint : String) (body? : Option Value) (log : Log)
      (result : Except Error α) (asked : Request) (answer : Answer) (errors : List String),
      (call base method endpoint body? decode? default).run.Branch log result →
      ⟨.link (.send asked), .ok answer⟩ ∈ log →
      isSuccess answer.status = true →
      Node.ofBytes? answer.body = some (.object members) →
      Envelope.Rejects members errors carried? →
      (result = .error (.rejected (failureText errors)) ↔ IsReadable decode? carried?) ∧
        (¬ IsReadable decode? carried? → result = .error (.undecodable endpoint))) ∧
    IsReadable ignored? carried? := by
  refine ⟨?_, ?_, fun _ _ => .inr rfl⟩
  · intro e c mayRetry log result asked answer status error h answered body rejects
    rw [Client.result_eq_readReply h answered]
    exact told_iff (readReply_of_rejects decode? default e.route answer body rejects) (by simp)
  · intro base method endpoint body? log result asked answer errors h answered success body rejects
    rw [result_eq_outcome h answered]
    exact told_iff (outcome_of_rejects decode? default endpoint answer success body rejects)
      (by simp)

/-! ### A rejection of each kind -/

/-- A client of a daemon on the same machine. -/
def localClient : Client :=
  ⟨loopback, false⟩

/-- A call for the state of the daemon can be answered with anything. -/
theorem exists_branch_status (answer : Answer) :
    ∃ asked, ((Errand.get "/api/status").run localClient Snapshot.ofNode? {} false).Branch
      [⟨.link (.send asked), .ok answer⟩] (readReply Snapshot.ofNode? {} "/api/status" answer) := by
  have hok : (Request.build .get (localClient.base.route "/api/status") [] none .empty).isOk =
      true := by
    decide +kernel
  obtain ⟨asked, hbuild⟩ := exists_eq_ok_of_isOk hok
  have honce : (getOnce Snapshot.ofNode? {} localClient.base "/api/status").Branch
      [⟨.send asked, .ok answer⟩] (readReply Snapshot.ofNode? {} "/api/status" answer) := by
    rw [getOnce, hbuild]
    exact .ask _ (.done _)
  refine ⟨asked, branch_bind_iff.mpr
    ⟨_, _, [], Client.branch_onLink_iff.mpr ⟨_, honce, rfl⟩, ?_, rfl⟩⟩
  cases readReply Snapshot.ofNode? {} "/api/status" answer with
  | ok value => exact .done _
  | error e =>
    dsimp only
    rw [Bool.and_false, Bool.false_and, if_neg Bool.false_ne_true]
    exact .done _

/-- A secret to show things with. -/
def sampleSecret : Secret :=
  ⟨"s", by decide⟩

/-- A request for an endpoint on the same machine can be answered with anything. -/
theorem exists_branch_request {secret : Secret} (hok : (forwarded loopback .get endpoint none
      secret).isOk = true) (decode? : Node → Option α) (answer : Answer) :
    ∃ asked, (request loopback .get endpoint none decode?).run.Branch
      [⟨.link .secret, .ok secret⟩, ⟨.link (.send asked), .ok answer⟩]
      (readAnswer decode? endpoint answer) := by
  obtain ⟨asked, hforwarded⟩ := exists_eq_ok_of_isOk hok
  exact ⟨asked, branch_request_iff.mpr (.sent hforwarded (.ok answer))⟩

/-- An answer that succeeds with a text is read as the envelope that the text writes. -/
theorem readAnswer_encode {α : Type} {decode? : Node → Option α} {text : String}
    {envelope : Envelope α} (endpoint : String)
    (h : (Node.ofText? text).bind (Envelope.ofNode? decode?) = some envelope) :
    readAnswer decode? endpoint ⟨200, Utf8.encode text⟩ = .ok envelope := by
  have hsuccess : isSuccess 200 = true := by decide
  rw [Node.ofText?] at h
  rw [readAnswer, if_pos hsuccess, Node.ofBytes?, Utf8.pieces_encode, h]

/-- A call that is sent can be answered with a payload. -/
theorem branch_get {secret : Secret} {asked : Request} {answer : Answer} {payload? : Option α}
    (default : α) (built : forwarded base .get endpoint none secret = .ok asked)
    (hread : readAnswer decode? endpoint answer = .ok ⟨"success", [], [], "", payload?⟩) :
    (get base endpoint decode? default).run.Branch
      [⟨.link .secret, .ok secret⟩, ⟨.link (.send asked), .ok answer⟩]
      (.ok (payload?.getD default)) := by
  have h : (request base .get endpoint none decode?).run.Branch _
      (readAnswer decode? endpoint answer) :=
    branch_request_iff.mpr (.sent built (.ok answer))
  rw [hread] at h
  exact branch_run_bind_iff.mpr (.inr ⟨_, _, [], h, .done _, rfl⟩)

/-- An endpoint on the same machine can be answered with a payload. -/
theorem exists_branch_get {text : String} {payload? : Option α} (default : α)
    (hok : (forwarded loopback .get endpoint none sampleSecret).isOk = true)
    (hread : readAnswer decode? endpoint ⟨200, Utf8.encode text⟩ =
      .ok ⟨"success", [], [], "", payload?⟩) :
    ∃ asked, (get loopback endpoint decode? default).run.Branch
      [⟨.link .secret, .ok sampleSecret⟩, ⟨.link (.send asked), .ok ⟨200, Utf8.encode text⟩⟩]
      (.ok (payload?.getD default)) := by
  obtain ⟨asked, built⟩ := exists_eq_ok_of_isOk hok
  exact ⟨asked, branch_get default built hread⟩

/-- A request for the list of groups can be answered with anything. -/
theorem exists_branch_groups (secret : Secret) (htext : secret.text = "s") (answer : Answer) :
    ∃ asked log, ⟨.link (.send asked), .ok answer⟩ ∈ log ∧
      (request localClient.base .get "/web/groups" none groups?).run.Branch log
        (readAnswer groups? "/web/groups" answer) := by
  have hok : (forwarded loopback .get "/web/groups" none secret).isOk = true := by
    rw [forwarded, htext]
    decide +kernel
  obtain ⟨asked, h⟩ := exists_branch_request hok groups? answer
  exact ⟨asked, _, by simp, h⟩

/-- The text of a reply that rejects, with null for its result. -/
def bareText : String :=
  "\x7b\"status\":\"invalid\",\"error\":\"no\",\"result\":null\x7d"

/-- The text of a reply that rejects, with a result that is no snapshot. -/
def strayText : String :=
  "\x7b\"status\":\"invalid\",\"error\":\"no\",\"result\":\"x\"\x7d"

/-- The members of a reply that rejects, with a result. -/
def rejectionMembers (result : Node) : List (Option String × Node) :=
  [(some "status", .string (some "invalid")), (some "error", .string (some "no")),
    (some "result", result)]

theorem rejects_rejectionMembers (result : Node) :
    Reply.Rejects (rejectionMembers result) "invalid" "no" (some result) where
  isSome := by simp [rejectionMembers]
  under_status := by simp [rejectionMembers, under]
  under_error := by simp [rejectionMembers, under]
  under_result := by simp [rejectionMembers, under]
  status_ne := by decide

/-- The text of an envelope that rejects, without a payload. -/
def envelopeText : String :=
  "\x7b\"type\":\"error\",\"errors\":[\"no\"]\x7d"

/-- The members of an envelope that rejects, without a payload. -/
def envelopeMembers : List (Option String × Node) :=
  [(some "type", .string (some "error")), (some "errors", textNodes ["no"])]

theorem rejects_envelopeMembers : Envelope.Rejects envelopeMembers ["no"] none where
  isSome := by simp [envelopeMembers]
  under_type := ⟨"error", by simp [envelopeMembers, under], by decide⟩
  under_errors := by simp [envelopeMembers, under]
  under_warnings := .inl (by simp [envelopeMembers, under])
  under_message := .inl (by simp [envelopeMembers, under])
  under_payload := by simp [envelopeMembers, under]

/-- Without a result and without a payload, rejections are told. -/
theorem rejection_told_bare :
    (∃ asked, ((Errand.get "/api/status").run localClient Snapshot.ofNode? {} false).Branch
      [⟨.link (.send asked), .ok ⟨400, Utf8.encode bareText⟩⟩]
      (.error (.rejected "invalid" "no"))) ∧
    ∃ log, (call localClient.base .get "/web/groups" none groups? []).run.Branch log
      (.error (.rejected "API request failed. Message: no")) := by
  constructor
  · have body : Node.ofText? (Utf8.decodeLossy (Utf8.encode bareText)) =
        some (.object (rejectionMembers .null)) := by
      refine (congrArg Node.ofText? (Utf8.decodeLossy_encode _)).trans ?_
      cbv
    have readable : IsReadable Snapshot.ofNode? (some .null) := fun node hnode =>
      .inl (Option.some.inj hnode).symm
    obtain ⟨asked, h⟩ := exists_branch_status ⟨400, Utf8.encode bareText⟩
    have hresult := ((rejection_told_iff Snapshot.ofNode? {} (rejectionMembers .null)
      (some .null)).1 _ localClient false _ _ asked _ "invalid" "no" h (List.mem_singleton_self _)
      body (rejects_rejectionMembers .null)).1.mpr readable
    exact ⟨asked, hresult ▸ h⟩
  · have body : Node.ofBytes? (Utf8.encode envelopeText) = some (.object envelopeMembers) := by
      rw [Node.ofBytes?, Utf8.pieces_encode]
      cbv
    obtain ⟨envelope, henvelope, _, hkind⟩ :=
      (Envelope.ofNode?_of_rejects groups? rejects_envelopeMembers).1 nofun
    have hread : readAnswer groups? "/web/groups" ⟨200, Utf8.encode envelopeText⟩ =
        .ok envelope := by
      rw [readAnswer, if_pos (by decide), body, Option.bind_some, henvelope]
    obtain ⟨asked, log, answered, h⟩ :=
      exists_branch_groups ⟨"s", by decide⟩ rfl ⟨200, Utf8.encode envelopeText⟩
    have hcall : (call localClient.base .get "/web/groups" none groups? []).run.Branch log
        (.error (.rejected envelope.failureMessage)) := by
      refine branch_run_bind_iff.mpr
        (.inr ⟨log, envelope, [], hread ▸ h, ?_, (List.append_nil log).symm⟩)
      rw [if_neg (by rw [hkind]; exact Bool.false_ne_true)]
      exact .done _
    have hresult := ((rejection_told_iff groups? [] envelopeMembers none).2.1 localClient.base .get
      "/web/groups" none log _ asked _ ["no"] hcall answered rfl body
      rejects_envelopeMembers).1.mpr nofun
    exact ⟨_, hresult ▸ hcall⟩

/-- A rejection with a result that is no snapshot is told as an answer that cannot be decoded. -/
theorem rejection_untold :
    ∃ asked, ((Errand.get "/api/status").run localClient Snapshot.ofNode? {} false).Branch
        [⟨.link (.send asked), .ok ⟨400, Utf8.encode strayText⟩⟩]
        (.error (.undecodable "/api/status")) ∧
      Node.ofText? (Utf8.decodeLossy (Utf8.encode strayText)) =
        some (.object (rejectionMembers (.string (some "x")))) ∧
      Reply.Rejects (rejectionMembers (.string (some "x"))) "invalid" "no"
        (some (.string (some "x"))) := by
  have body : Node.ofText? (Utf8.decodeLossy (Utf8.encode strayText)) =
      some (.object (rejectionMembers (.string (some "x")))) := by
    refine (congrArg Node.ofText? (Utf8.decodeLossy_encode _)).trans ?_
    cbv
  have unreadable : ¬ IsReadable Snapshot.ofNode? (some (.string (some "x"))) := by
    intro readable
    rcases readable _ rfl with hnull | hsome
    · cases hnull
    · cases hsome
  obtain ⟨asked, h⟩ := exists_branch_status ⟨400, Utf8.encode strayText⟩
  have hread := (readReply_of_rejects Snapshot.ofNode? {} "/api/status" ⟨400, Utf8.encode strayText⟩
    body (rejects_rejectionMembers _)).2 unreadable
  exact ⟨asked, hread ▸ h, body, rejects_rejectionMembers _⟩

end MeshControl.Dashboard
