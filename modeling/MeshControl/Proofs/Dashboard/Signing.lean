import MeshControl.Config.Basic
import MeshControl.Proofs.Daemon.Signing
import MeshControl.Proofs.Dashboard.Places
import MeshControl.Proofs.Http.Query

/-!
# Signed requests to the dashboard

The secret goes to the daemon in two places: posted, as the last field of a form, and in a query, as
the last field of an address.  What stands before it there are the fields that the address writes
itself (`SignedForward.signing`).  An endpoint writes none without a question mark, and neither does the
address of the daemon, so then the secret stands alone (`SignedForward.alone`).

`secrets_attached` puts both places together, for whatever the surroundings answer.  The address of the
daemon has to be one, though: what is put in its place can write a secret of its own in front
(`address_forges_secret`).
-/

namespace MeshControl.Dashboard

open Daemon Dialogue MeshControl.Http MeshControl.Json

variable {α : Type} {base : BaseUrl} {method : Method} {endpoint : String} {body? : Option Value}
  {decode? : Node → Option α} {default : α}

/-- The fields that an address writes itself, before anything is added. -/
def ownFields (base : BaseUrl) (endpoint : String) : List (String × String) :=
  match Url.read (forwardUrl base endpoint) with
  | .ok url => url.fields
  | .error _ => []

/-- The address of what is sent is read as some fields and, behind them, the secret that was asked for
right before. -/
def Signing (own : List (String × String)) (before : Log) : Exchange Call Call.Answer → Prop
  | ⟨.link (.send request), _⟩ =>
    ∃ secret, [⟨.link .secret, .ok secret⟩] <:+ before ∧ secret.text ≠ "" ∧
      request.url.fields = own ++ [("secret", secret.text)]
  | _ => True

/-- The laws of the secret in what is forwarded. -/
structure SignedForward (base : BaseUrl) (endpoint : String) (log : Log) (result : Except Error α) :
    Prop where
  /-- All that is sent has the secret in its query, behind the fields that its address writes. -/
  signing : Everywhere (Signing (ownFields base endpoint)) log
  /-- Without a question mark in the address, the secret stands alone. -/
  alone : '?' ∉ base.text.toList → '?' ∉ endpoint.toList → Everywhere (Signing []) log
  /-- Without a secret nothing is sent. -/
  unsigned : ∀ cause, ⟨.link .secret, .error cause⟩ ∈ log →
    (∀ request answer, ⟨.link (.send request), answer⟩ ∉ log) ∧ result = .error (.secret cause)

/-- Where nothing writes a question mark, an address has no fields of its own. -/
theorem ownFields_eq_nil (hbase : '?' ∉ base.text.toList) (hendpoint : '?' ∉ endpoint.toList) :
    ownFields base endpoint = [] := by
  have hroute : '?' ∉ "/api/forward".toList := by decide
  have hurl : '?' ∉ (forwardUrl base endpoint).toList := by
    simp only [forwardUrl, BaseUrl.route, String.toList_append, List.mem_append, not_or]
    exact ⟨hbase, hroute, hendpoint⟩
  unfold ownFields
  split
  · next url hread => exact Url.fields_eq_nil_of_read hread hurl
  · rfl

/-- The fields of a request are those that its address writes, and the secret. -/
theorem fields_of_forwarded {secret : Secret} {asked : Request}
    (h : forwarded base method endpoint body? secret = .ok asked) :
    asked.url.fields = ownFields base endpoint ++ [("secret", secret.text)] := by
  obtain ⟨url, hread, hasked⟩ := read_of_forwarded h
  rw [hasked, Url.fields_withFields, ownFields, hread]

/-- A request is signed. -/
theorem Requested.signing {log : Log} {read : Except Error (Envelope α)}
    (h : Requested base method endpoint body? decode? log read) :
    Everywhere (Signing (ownFields base endpoint)) log := by
  cases h with
  | unsigned cause => simp [Signing]
  | unbuilt built => simp [Signing]
  | @sent secret asked built answer =>
    have hsigned : ∃ given, [⟨.link .secret, .ok given⟩] <:+
        [(⟨.link .secret, .ok secret⟩ : Exchange Call Call.Answer)] ∧ given.text ≠ "" ∧
        asked.url.fields = ownFields base endpoint ++ [("secret", given.text)] :=
      ⟨secret, List.suffix_refl _, secret.text_ne_empty, fields_of_forwarded built⟩
    simpa [Signing] using hsigned

/-- Without a secret a request is not sent. -/
theorem Requested.unsent {log : Log} {read : Except Error (Envelope α)} {cause : SecretError}
    (h : Requested base method endpoint body? decode? log read)
    (hcause : ⟨.link .secret, .error cause⟩ ∈ log) :
    (∀ request answer, ⟨.link (.send request), answer⟩ ∉ log) ∧ read = .error (.secret cause) := by
  cases h with
  | unsigned other =>
    cases List.mem_singleton.mp hcause
    exact ⟨fun request answer => by simp, rfl⟩
  | unbuilt built => simp at hcause
  | sent built answer => simp at hcause

theorem signedForward_of_request {log : Log} {read : Except Error (Envelope α)}
    (h : (request base method endpoint body? decode?).run.Branch log read) :
    SignedForward base endpoint log read := by
  have hrequested := branch_request_iff.mp h
  refine ⟨hrequested.signing, fun hbase hendpoint => ?_, fun cause => hrequested.unsent⟩
  have hsigning := hrequested.signing
  rwa [ownFields_eq_nil hbase hendpoint] at hsigning

/-- Nothing is sent behind the request of a call, so what holds of the request holds of the call. -/
theorem signedForward_of_call {log : Log} {result : Except Error α}
    (h : (call base method endpoint body? decode? default).run.Branch log result) :
    SignedForward base endpoint log result := by
  obtain ⟨first, read, rest, hrequest, rfl, hrest, rfl⟩ := branch_call h
  have hfirst := signedForward_of_request hrequest
  have hsilent : ∀ own, ∀ x ∈ rest, ∀ before, Signing own before x := by
    intro own x hx before
    unfold Signing
    split
    · exact absurd hx (hrest _ _)
    · trivial
  have hall : ∀ own, Everywhere (Signing own) first → Everywhere (Signing own) (first ++ rest) := by
    intro own hown
    refine everywhere_append_iff.mpr ⟨hown, fun before x after hlog => ?_⟩
    exact hsilent own x (hlog ▸ List.mem_append_right before List.mem_cons_self) _
  refine ⟨hall _ hfirst.signing, fun hbase hendpoint => hall _ (hfirst.alone hbase hendpoint), ?_⟩
  intro cause hcause
  obtain ⟨hunsent, rfl⟩ :=
    hfirst.unsigned cause ((List.mem_append.mp hcause).resolve_right (hrest _ _))
  refine ⟨fun request answer hsent => ?_, rfl⟩
  exact hunsent request answer ((List.mem_append.mp hsent).resolve_right (hrest _ _))

/-! ### Both places -/

/-- **The secret goes with every request that needs it**, whatever the surroundings answer: posted as
the last field of the form, in both attempts, and forwarded as the last field of the query. -/
theorem secrets_attached {σ τ : Type} (daemon : σ → (q : Client.Call) → q.Answer × σ) (s : σ)
    (dashboard : τ → (q : Call) → q.Answer × τ) (t : τ) (c : Client) (route : String)
    (fields : List (String × String)) (mayRetry : Bool) (base : BaseUrl) (method : Method)
    (endpoint : String) (body? : Option Value) (decode? : Node → Option α) (default : α) :
    let posted := (c.post decode? default route fields mayRetry).runLogged daemon s
    let requested := (request base method endpoint body? decode?).run.runLogged dashboard t
    let called := (call base method endpoint body? decode? default).run.runLogged dashboard t
    Client.SignedPosts fields posted.2.2 posted.1 ∧
      SignedForward base endpoint requested.2.2 requested.1 ∧
      SignedForward base endpoint called.2.2 called.1 :=
  ⟨Client.signedPosts_of_branch (branch_runLogged daemon _ s),
    signedForward_of_request (branch_runLogged dashboard _ t),
    signedForward_of_call (branch_runLogged dashboard _ t)⟩

/-- A configuration in which a query stands in the place of the daemon's address. -/
def queryForAddress : Config :=
  { daemonAddress := "127.0.0.1?secret=forged&to=" }

/-- A query in the place of the daemon's address goes in front of the secret, and may have a secret of
its own. -/
theorem address_forges_secret :
    '?' ∉ "/web/groups".toList ∧ '#' ∉ "/web/groups".toList ∧ ∃ asked log,
      (request (BaseUrl.ofText queryForAddress.daemonUrl) .get "/web/groups" none
        groups?).run.Branch log (.error .refused) ∧
      ⟨.link .secret, .ok ⟨"s", by decide⟩⟩ ∈ log ∧
      ⟨.link (.send asked), .error .refused⟩ ∈ log ∧
      asked.url.fields = [("secret", "forged"), ("to", ":16216/api/forward/web/groups"),
        ("secret", "s")] ∧
      asked.url.fields ≠ [("secret", "s")] := by
  have hfields : ((forwarded (BaseUrl.ofText queryForAddress.daemonUrl) .get "/web/groups" none
      ⟨"s", by decide⟩).toOption.map fun asked => asked.url.fields) =
      some [("secret", "forged"), ("to", ":16216/api/forward/web/groups"), ("secret", "s")] := by
    decide +kernel
  refine ⟨by decide, by decide, ?_⟩
  cases hbuilt : forwarded (BaseUrl.ofText queryForAddress.daemonUrl) .get "/web/groups" none
      ⟨"s", by decide⟩ with
  | error failure =>
    rw [hbuilt] at hfields
    cases hfields
  | ok asked =>
    rw [hbuilt] at hfields
    have hasked := Option.some.inj hfields
    have hbranch : (request (BaseUrl.ofText queryForAddress.daemonUrl) .get "/web/groups" none
        groups?).run.Branch _ (.error .refused) :=
      branch_request_iff.mpr (.sent hbuilt (.error .refused))
    exact ⟨asked, _, hbranch, by simp, by simp, hasked,
      fun heq => absurd (hasked.symm.trans heq) (by decide)⟩

end MeshControl.Dashboard
