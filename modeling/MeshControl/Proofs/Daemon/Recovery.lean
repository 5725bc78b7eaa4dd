import MeshControl.Host.Machine
import MeshControl.Proofs.Daemon.Restart
import MeshControl.Proofs.Host.Wire
import MeshControl.Proofs.Wait.Sends

/-!
# Calls that bring the daemon back up

Bringing the daemon back up asks files, programs and the user, and then waits: it sends at most one
request for each poll (`Recovery.atMost_run`).  Together with the laws of a call this bounds what a
call sends on a machine, and with what is known of the client that carries its requests, what passes
over the network (`Economical`), however the daemon comes and goes meanwhile.
-/

namespace MeshControl.Daemon

open Dialogue MeshControl.Host MeshControl.Http MeshControl.Json

variable {p : Exchange Host.Call Host.Call.Answer → Bool}

namespace Service

theorem atMost_systemctl (hp : OfSends p) (arguments : List String)
    (action : String) : AtMost p 0 (systemctl arguments action) :=
  (minds_systemctl lasting_false (fun _ => hp.not rfl) action).atMost

theorem atMost_install (hp : OfSends p) (s : Service) (searchPath? : Option String) :
    AtMost p 0 (s.install searchPath?).run := by
  refine (minds_install lasting_false (fun _ _ => hp.not rfl) (fun _ => hp.not rfl) ?_ s _).atMost
  exact fun _ => minds_systemctl lasting_false fun _ => hp.not rfl

end Service

namespace Recovery

theorem atMost_isWanted (hp : OfSends p) (r : Recovery) : AtMost p 0 r.isWanted := by
  refine (minds_isWanted lasting_false r ?_).atMost
  exact minds_confirmUnless lasting_false (fun _ => hp.not rfl) (.inr fun _ => hp.not rfl) _

theorem atMost_installIfMissing (hp : OfSends p) (r : Recovery) :
    AtMost p 0 r.installIfMissing := by
  unfold installIfMissing
  split_ifs
  · exact atMost_done _
  · have hinstalled : AtMost p 0 r.service.isInstalled := atMost_query fun _ => hp _ rfl
    refine hinstalled.bind_free fun isInstalled => ?_
    split_ifs
    · exact atMost_done _
    · exact (Service.atMost_install hp _ _).bind_free fun _ => atMost_done _

/-- A recovery costs what its polls cost. -/
theorem atMost_run (hp : OfSends p) {n : Nat} (r : Recovery) (access : Access)
    (hwait : AtMost p n (Wait.onHost access r.wait [.daemonReachable])) :
    AtMost p n (r.run access) := by
  unfold run
  have hprint : AtMost p 0 (print (Terminal.infoLine "Daemon does not seem to be running")) :=
    atMost_query fun _ => hp _ rfl
  refine hprint.bind_free fun _ => ?_
  refine (atMost_isWanted hp r).bind_free fun wanted => ?_
  cases wanted with
  | error e => exact atMost_done _
  | ok _ =>
    refine (atMost_installIfMissing hp r).bind_free fun installed => ?_
    cases installed with
    | error e => exact atMost_done _
    | ok _ =>
      have hrestart : AtMost p 0 r.service.restart := Service.atMost_systemctl hp _ _
      refine hrestart.bind_free fun restarted => ?_
      have hcomplain : AtMost p 0 (complain (Terminal.warningLine restartWarning)) :=
        atMost_query fun _ => hp _ rfl
      -- the daemon is waited for whether or not the restart succeeded
      cases restarted with
      | error cause => exact hcomplain.bind_free fun _ => hwait.then_free fun _ => atMost_done _
      | ok _ => exact hwait.then_free fun _ => atMost_done _

/-- A recovery only reads. -/
theorem atMost_run_of_get (hp : OfSends p) (hreads : NoneReads p) (r : Recovery) (access : Access) :
    AtMost p 0 (r.run access) :=
  r.atMost_run hp access (Wait.atMost_onHost_of_get hp hreads _ _ _)

/-- **What a call posts from a machine is what its attempts post.** Bringing the daemon back up posts
nothing. -/
theorem mem_link_of_mem_post {r : Recovery} {access : Access} {calls : Client.Log} {log : Host.Log}
    (h : Spelled (access.answerCall (r.run access)) calls log) {request : Request}
    {told : Except Failure Answer} (hmem : ⟨.send request, told⟩ ∈ log)
    (hpost : request.method = .post) : ⟨.link (.send request), told⟩ ∈ calls := by
  obtain ⟨question, answer, part, hcalls, hpart, hmem⟩ := h.exists_of_mem hmem
  cases question with
  | recover =>
    have hrun := r.atMost_run_of_get ofSends_isPost noneReads_isPost access
    have hnone : isPost ⟨.send request, told⟩ = false := hrun.eq_false hpart _ hmem
    cases hnone.symm.trans (decide_eq_true hpost)
  | link question =>
    cases question with
    | secret => cases (atMost_onFiles ofSends_isSend _).eq_false hpart _ hmem
    | send asked =>
      obtain rfl := branch_query_iff.mp hpart
      cases List.mem_singleton.mp hmem
      exact hcalls

end Recovery

/-- What the attempts of a call send is sent on the machine. -/
theorem mem_send_of_mem_link {access : Access} {recovery : Host.Asking (Except Error Unit)}
    {calls : Client.Log} {log : Host.Log} (h : Spelled (access.answerCall recovery) calls log)
    {request : Request} {told : Except Failure Answer}
    (hmem : ⟨.link (.send request), told⟩ ∈ calls) : ⟨.send request, told⟩ ∈ log := by
  obtain ⟨part, hpart, hsub⟩ := h.exists_part hmem
  obtain rfl := branch_query_iff.mp hpart
  exact hsub List.mem_cons_self

/-! ### A whole call -/

section Call

variable {α : Type} {e : Errand} {decode? : Node → Option α} {default : α} {c : Client}
  {mayRetry : Bool} {calls : Client.Log} {result : Except Error α} {access : Access} {r : Recovery}
  {log : List (Exchange Host.Call Host.Call.Answer)}

/-- Two requests of the call, and one for each poll. -/
theorem countP_isSend_le (h : Client.RetriedOnce e decode? default c mayRetry calls result)
    (hspelled : Spelled (access.answerCall (r.run access)) calls log) :
    log.countP isSend ≤ 2 + r.wait.attempts := by
  have hrun : AtMost isSend r.wait.attempts (r.run access) :=
    r.atMost_run ofSends_isSend access (Wait.atMost_isSend_onHost _ _ _)
  have hle := Access.countP_answerCall_le ofSends_isSend hrun hspelled
  rw [Access.onWire_isSend] at hle
  calc
    log.countP isSend
      ≤ calls.countP (Client.inAttempt Link.isSend) +
          calls.countP Client.isRecovery * r.wait.attempts := hle
    _ ≤ 2 + 1 * r.wait.attempts :=
        Nat.add_le_add h.sends_le (Nat.mul_le_mul_right _ h.recoveries_le)
    _ = 2 + r.wait.attempts := by rw [Nat.one_mul]

/-- The polls of a recovery post nothing, so what is posted is what the call itself posts. -/
theorem countP_isUnrefused_post_le (h : Client.RetriedOnce e decode? default c mayRetry calls result)
    (hspelled : Spelled (access.answerCall (r.run access)) calls log) :
    log.countP (isUnrefused .post) ≤ 1 := by
  have hrun : AtMost (isUnrefused .post) 0 (r.run access) :=
    r.atMost_run_of_get ofSends_isUnrefused noneReads_isUnrefused_post access
  have hle := Access.countP_answerCall_le ofSends_isUnrefused hrun hspelled
  have hmono : calls.countP (Client.inAttempt (Access.onWire (isUnrefused .post))) ≤
      calls.countP (Client.inAttempt Link.isUnrefused) := by
    refine List.countP_mono_left ?_
    rintro ⟨question | _, answer⟩ _ hx
    · exact Access.isUnrefused_of_onWire hx
    · cases hx
  calc
    log.countP (isUnrefused .post)
      ≤ calls.countP (Client.inAttempt (Access.onWire (isUnrefused .post))) +
          calls.countP Client.isRecovery * 0 := hle
    _ ≤ calls.countP (Client.inAttempt Link.isUnrefused) + 0 := Nat.add_le_add_right hmono _
    _ ≤ 1 := h.unrefused_le

/-- A call on a machine keeps the laws of a call, whatever brings the daemon back up. -/
theorem exists_retriedOnce_of_branch {recovery : Host.Asking (Except Error Unit)}
    (h : (access.callOnHost recovery (e.run c decode? default mayRetry)).Branch log result) :
    ∃ calls, Spelled (access.answerCall recovery) calls log ∧
      Client.RetriedOnce e decode? default c mayRetry calls result := by
  obtain ⟨calls, hcalls, hspelled⟩ := branch_answerWith_iff.mp h
  exact ⟨calls, hspelled, Client.retriedOnce_of_branch hcalls⟩

/-! ### On the network -/

/-- What a call with so many polls may bring about on the network. -/
structure Economical (polls : Nat) (wire : Wire.Log) : Prop where
  /-- Two requests and the polls open a connection each, and all others are owed to replies that send a
  request elsewhere. -/
  connects_le : wire.countP Wire.isConnect ≤ 2 + polls + wire.countP Wire.isRedirect
  /-- However many such replies there are, no request is sent elsewhere more often than the limit. -/
  connects_le_limit : wire.countP Wire.isConnect ≤ (2 + polls) * (Wire.redirectLimit + 1)
  /-- What posts is handed over once, and all other times for a reply that sends it elsewhere. -/
  delivered_le : wire.countP (Wire.isDelivered .post) ≤ 1 + wire.countP (Wire.isRedirected .post)

/-- Where no reply sends a request elsewhere, a call opens no more connections than it makes requests
and hands over no more than one that posts. -/
theorem Economical.of_direct {polls : Nat} {wire : Wire.Log} (h : Economical polls wire)
    (hdirect : wire.countP Wire.isRedirect = 0) :
    wire.countP Wire.isConnect ≤ 2 + polls ∧ wire.countP (Wire.isDelivered .post) ≤ 1 := by
  have hposts : wire.countP (Wire.isRedirected .post) ≤ wire.countP Wire.isRedirect :=
    List.countP_mono_left fun x _ => Wire.isRedirect_of_isRedirected
  have hconnects := h.connects_le
  have hdelivered := h.delivered_le
  omega

/-- A call is economical, whichever client carries its requests. -/
theorem economical {carrier : Carrier} (client : carrier.IsDocumented)
    (h : Client.RetriedOnce e decode? default c mayRetry calls result)
    (hcalls : Spelled (access.answerCall (r.run access)) calls log) {wire : Wire.Log}
    (hwire : Spelled carrier.answerCall log wire) : Economical r.wait.attempts wire := by
  have hsends : log.countP isSend ≤ 2 + r.wait.attempts := countP_isSend_le h hcalls
  have hposts : log.countP (isUnrefused .post) ≤ 1 := countP_isUnrefused_post_le h hcalls
  have hdelivered := Carrier.countP_isDelivered_le client (by decide : Method.post ≠ .get) hwire
  exact
    { connects_le :=
        (Carrier.countP_isConnect_le client hwire).trans (Nat.add_le_add_right hsends _)
      connects_le_limit :=
        (Carrier.countP_isConnect_le_limit client hwire).trans (Nat.mul_le_mul_right _ hsends)
      delivered_le := hdelivered.trans (Nat.add_le_add_right hposts _) }

end Call

/-- A machine with what its connections result in. -/
abbrev Connected := Machine × List (Except Failure Host.Reply)

/-- The answer to a question; a connection of which nothing is said is refused. -/
def Connected.answer : Connected → (q : Wire.Call) → q.Answer × Connected
  | (m, replies), .connect _ => (replies.headD (.error .refused), (m, replies.tail))
  | (m, replies), .aside question =>
    let (answer, m) := m.answer question
    (answer, (m, replies))

/-- A machine whose user says yes and on which services can be restarted. -/
def obedient : Machine :=
  ({ input := Text.Utf8.encode "yes\n", searchPath := "/bin" } : Machine).withProgram "/bin"
    "systemctl" {}

/-- The daemon of that machine. -/
def obedientAccess : Access :=
  ⟨⟨"http://127.0.0.1:16216"⟩, some "secret", Secret.standardPath⟩

/-- A restart with a single poll. -/
def pollingOnce : Recovery where
  service := ⟨"husarnet", "husarnet-daemon"⟩
  policy := .promptRestart
  nonInteractive := false
  wait := ⟨1000, 1⟩
  searchPath? := none

/-- A call that joins a network, on that machine. -/
def joinRun (replies : List (Except Failure Host.Reply)) : Except Error Unit × Connected × Wire.Log :=
  let join := (Errand.post "/api/join" [("code", "c")]).run ⟨obedientAccess.base, true⟩
    (fun _ => some ()) () true
  ((Carrier.following Wire.redirectLimit).carryAll
    (obedientAccess.callOnHost (pollingOnce.run obedientAccess) join)).runLogged Connected.answer
    (obedient, replies)

/-- Whether that call succeeds, how many connections it opens and how often what it posts is handed
over. -/
def joinOutcome (replies : List (Except Failure Host.Reply)) : Bool × Nat × Nat :=
  match joinRun replies with
  | (result, _, wire) =>
    (result.isOk, wire.countP Wire.isConnect, wire.countP (Wire.isDelivered .post))

/-- A reply that reports success. -/
def accepting : Host.Reply :=
  ⟨200, none, Text.Utf8.encode "\x7b\"status\":\"ok\"\x7d"⟩

/-- A reply that sends the very request to another port. -/
def movedAway : Host.Reply :=
  ⟨307, some ⟨"http", [], "127.0.0.1", some 16217, ["api".toList, "join".toList], none, none⟩, []⟩

end MeshControl.Daemon
