import MeshControl.Proofs.Daemon.Requests
import MeshControl.Proofs.Dialogue.Points
import MeshControl.Proofs.Text.Percent

/-!
# Signed requests to the daemon

Whatever is posted to the daemon is signed: the body stands for the fields of the call and, behind
them, the secret that was asked for right before the request (`Signing`).  This holds of the first
attempt and of the second one alike, since each asks for the secret anew (`Logged.signing`).

A value cannot pass for another field, because a form is read back as the pairs that it was written
from, whatever characters they hold (`Form.decode_encode`).
-/

namespace MeshControl.Daemon

open Dialogue MeshControl.Http MeshControl.Json MeshControl.Text

/-- A request posts a form that is read as some fields and a secret behind them. -/
structure Posts (fields : List (String × String)) (secret : Secret) (request : Request) : Prop where
  isPost : request.method = .post
  isForm : request.body.contentType? = some "application/x-www-form-urlencoded"
  nonempty : secret.text ≠ ""
  decode_eq : Form.decode request.body.text = fields ++ [("secret", secret.text)]

theorem Secret.text_ne_empty (secret : Secret) : secret.text ≠ "" := by
  intro h
  have hempty : secret.text.isEmpty = true := by simp [h]
  exact absurd hempty (by simp [secret.nonempty])

/-- What is put together to be posted posts the fields and the secret. -/
theorem posts_of_build {url : String} {fields : List (String × String)} {secret : Secret}
    {request : Request}
    (h : Request.build .post url [] none (.form (signed fields secret)) = .ok request) :
    Posts fields secret request := by
  rcases Link.build_cases .post url [] none (.form (signed fields secret)) with
    ⟨url?, cause, hfailed⟩ | ⟨address, hbuilt⟩
  · cases h.symm.trans hfailed
  · cases h.symm.trans hbuilt
    exact
      { isPost := rfl
        isForm := rfl
        nonempty := secret.text_ne_empty
        decode_eq := Form.decode_encode (signed fields secret) }

namespace Client

variable {α : Type} {decode? : Node → Option α} {default : α} {base : BaseUrl} {route : String}
  {fields : List (String × String)}

/-- What is sent posts these fields and the secret that was asked for right before. -/
def Signing (fields : List (String × String)) (before : Log) : Exchange Call Call.Answer → Prop
  | ⟨.link (.send request), _⟩ =>
    ∃ secret, [⟨.link .secret, .ok secret⟩] <:+ before ∧ Posts fields secret request
  | _ => True

/-- The laws of posting fields. -/
structure SignedPosts (fields : List (String × String)) (log : Log) (result : Except Error α) :
    Prop where
  /-- All that is sent is signed, whichever attempt it belongs to. -/
  signing : Everywhere (Signing fields) log
  /-- Without a secret nothing more is sent. -/
  unsigned : ∀ earlier cause rest, log = earlier ++ ⟨.link .secret, .error cause⟩ :: rest →
    rest = [] ∧ result = .error (.secret cause)

theorem Signing.prepend {first before : Log} {x : Exchange Call Call.Answer}
    (h : Signing fields before x) : Signing fields (first ++ before) x := by
  unfold Signing at h ⊢
  split at h
  · obtain ⟨secret, hsecret, hposts⟩ := h
    exact ⟨secret, hsecret.trans (List.suffix_append first before), hposts⟩
  · trivial

/-- One attempt to post is signed. -/
theorem signing_of_attempted {inner : Link.Log} {result : Except Error α}
    (h : Link.Attempted decode? default base (.post route fields) inner result) :
    Everywhere (Signing fields) (inner.map ofLink) := by
  cases h with
  | unsigned signs cause => simp [ofLink, Signing]
  | unbuilt prepared =>
    cases prepared with
    | post route fields secret build => simp [ofLink, Signing]
  | @sent before request prepared answer =>
    cases prepared with
    | post route fields secret build =>
      have hsigned : ∃ given, [⟨.link .secret, .ok given⟩] <:+
          [(⟨.link .secret, .ok secret⟩ : Exchange Call Call.Answer)] ∧ Posts fields given request :=
        ⟨secret, List.suffix_refl _, posts_of_build build⟩
      simpa [ofLink, Signing] using hsigned

/-- **All that a call posts is signed**, in both attempts. -/
theorem Logged.signing {log : Log} {result : Except Error α}
    (h : Logged ((Errand.post route fields).once decode? default base) log result) :
    Everywhere (Signing fields) log := by
  cases h with
  | once only => exact signing_of_attempted (Link.branch_once_iff.mp only)
  | abandoned only cause =>
    have honly := signing_of_attempted (Link.branch_once_iff.mp only)
    exact honly.append (by simp [Signing]) fun _ _ => Signing.prepend
  | again refused last =>
    have hfirst := signing_of_attempted (Link.branch_once_iff.mp refused)
    have hlast := signing_of_attempted (Link.branch_once_iff.mp last)
    have hrecover : Everywhere (Signing fields)
        [(⟨.recover, .ok ()⟩ : Exchange Call Call.Answer)] := by simp [Signing]
    -- the second attempt asks for the secret anew, so what was asked before it does not matter
    have hagain := hrecover.append hlast fun _ _ => Signing.prepend
    exact hfirst.append hagain fun _ _ => Signing.prepend

/-- All that a call posts goes to its route. -/
theorem Logged.posts_of_mem {log : Log} {result : Except Error α}
    (h : Logged ((Errand.post route fields).once decode? default base) log result)
    {request : Request} {answer : Except Failure Answer}
    (hmem : ⟨.link (.send request), answer⟩ ∈ log) :
    Url.read (base.route route) = .ok request.url ∧ ∃ secret, Posts fields secret request := by
  obtain ⟨inner, outcome, hinner, hsend⟩ := h.exists_branch hmem
  obtain ⟨⟨before, prepared⟩, _⟩ := (Link.branch_once_iff.mp hinner).sent_of_mem hsend
  cases prepared with
  | post route fields secret build => exact ⟨Link.read_of_build build, secret, posts_of_build build⟩

theorem signedPosts_of_branch {c : Client} {mayRetry : Bool} {log : Log} {result : Except Error α}
    (h : (c.post decode? default route fields mayRetry).Branch log result) :
    SignedPosts fields log result := by
  have hbranch : ((Errand.post route fields).run c decode? default mayRetry).Branch log result := h
  have hlogged := logged_of_branch hbranch
  refine ⟨hlogged.signing, fun earlier cause rest hlog => ?_⟩
  obtain ⟨hrest, hresult, _⟩ := hlogged.unsigned hlog
  exact ⟨hrest, hresult⟩

end Client

end MeshControl.Daemon
