import MeshControl.Daemon.Access
import MeshControl.Proofs.Daemon.Requests
import MeshControl.Proofs.Host.Sends

/-!
# Calls on a machine

On a machine the secret is looked for in files and each request of an attempt is sent as it is, so a
call costs what its attempts cost, and what bringing the daemon back up costs once.
-/

namespace MeshControl.Daemon.Access

open Dialogue MeshControl.Http MeshControl.Host

variable {p : Exchange Host.Call Host.Call.Answer → Bool}

/-- A kind of exchange with the machine as one of exchanges of an attempt. -/
def onWire (p : Exchange Host.Call Host.Call.Answer → Bool) :
    Exchange Link.Call Link.Call.Answer → Bool
  | ⟨.send request, answer⟩ => p ⟨.send request, answer⟩
  | ⟨.secret, _⟩ => false

/-- The machine sends what the question says, and nothing for a secret. -/
theorem countP_answerLink (hp : OfSends p) (a : Access) {q : Link.Call}
    {answer : q.Answer} {log : List (Exchange Host.Call Host.Call.Answer)}
    (h : (a.answerLink q).Branch log answer) :
    log.countP p = if onWire p ⟨q, answer⟩ then 1 else 0 := by
  cases q with
  | secret => exact Nat.le_zero.mp (atMost_onFiles hp _ _ _ h)
  | send request =>
    obtain rfl := branch_query_iff.mp h
    rw [List.countP_singleton]
    rfl

/-- An attempt within a call is on a machine what it is alone. -/
theorem answerWith_onLink (a : Access) (recovery : Host.Asking (Except Error Unit)) {α : Type}
    (attempt : Link.Asking α) :
    (Client.onLink attempt).answerWith (a.answerCall recovery) = a.onHost attempt := by
  rw [Client.onLink, answerWith_answerWith]
  show _ = attempt.answerWith a.answerLink
  congr 1
  funext q
  exact bind_done (a.answerLink q)

/-- **A call that may not be retried is an attempt**: it makes no use of a way to bring the daemon
back up. -/
theorem callOnHost_call_false (a : Access) (recovery : Host.Asking (Except Error Unit)) (c : Client)
    {α : Type} (attempt : Link.Asking (Except Error α)) :
    a.callOnHost recovery (c.call false attempt) = a.onHost attempt := by
  -- the condition for a recovery is false whatever the attempt results in
  have hcall : c.call false attempt = Client.onLink attempt := by
    refine bind_eq_self fun result => ?_
    rcases result with e | value
    · dsimp only
      rw [Bool.and_false, Bool.false_and]
      rfl
    · rfl
  unfold callOnHost
  rw [hcall, answerWith_onLink]

/-- What follows a refused attempt: if the daemon was brought back up, another one. -/
def again {α : Type} (a : Access) (attempt : Link.Asking (Except Error α))
    (recovered : Except Error Unit) : Host.Asking (Except Error α) :=
  match recovered with
  | .ok () => a.onHost attempt
  | .error e => done (.error e)

/-- What follows an attempt that may be retried. -/
def afterAttempt {α : Type} (a : Access) (recovery : Host.Asking (Except Error Unit))
    (attempt : Link.Asking (Except Error α)) (result : Except Error α) :
    Host.Asking (Except Error α) :=
  if wasRefused result then recovery.bind (a.again attempt) else done result

/-- A call that may be retried is an attempt, and behind a refusal another one if the daemon was
brought back up. -/
theorem callOnHost_call_true (a : Access) (recovery : Host.Asking (Except Error Unit)) (c : Client)
    (hcan : c.canRecover = true) {α : Type} (attempt : Link.Asking (Except Error α)) :
    a.callOnHost recovery (c.call true attempt) =
      (a.onHost attempt).bind (a.afterAttempt recovery attempt) := by
  unfold callOnHost Client.call
  rw [bind_eq, answerWith_bind, answerWith_onLink]
  congr 1
  funext result
  rcases result with e | value
  · dsimp only
    rw [hcan, Bool.and_true, Bool.and_true, afterAttempt, wasRefused]
    cases e.isRefused with
    | true =>
      rw [if_pos rfl, if_pos rfl, bind_eq, answerWith_bind]
      show ((Client.recover).answerWith (a.answerCall recovery)).bind _ = _
      have hrecover : (Client.recover).answerWith (a.answerCall recovery) = recovery :=
        bind_done recovery
      rw [hrecover]
      congr 1
      funext recovered
      rcases recovered with cause | _
      · rfl
      · exact a.answerWith_onLink recovery attempt
    | false => rfl
  · rfl

/-- An attempt costs on a machine what it costs alone. -/
theorem countP_onHost (hp : OfSends p) {a : Access} {α : Type}
    {d : Link.Asking α} {log : List (Exchange Host.Call Host.Call.Answer)} {result : α}
    (h : (a.onHost d).Branch log result) :
    ∃ inner, d.Branch inner result ∧ log.countP p ≤ inner.countP (onWire p) := by
  obtain ⟨inner, hd, hspelled⟩ := branch_answerWith_iff.mp h
  refine ⟨inner, hd, ?_⟩
  have hle : log.countP p ≤ inner.countP (onWire p) + inner.countP (fun _ => false) * 0 :=
    hspelled.countP_le fun q answer log hlog => Nat.le_of_eq (countP_answerLink hp a hlog)
  rwa [Nat.mul_zero, Nat.add_zero] at hle

theorem onWire_isSend : onWire isSend = Link.isSend := by
  funext x
  obtain ⟨_ | request, answer⟩ := x
  · rfl
  · rfl

theorem isUnrefused_of_onWire {method : Method} {x : Exchange Link.Call Link.Call.Answer}
    (h : onWire (isUnrefused method) x = true) : Link.isUnrefused x = true := by
  obtain ⟨_ | request, answer⟩ := x
  · cases h
  · rcases answer with (_ | _ | _) | answer
    · cases h
    · rfl
    · rfl
    · rfl

/-- Where all requests only read, none is of a kind to which such requests do not belong. -/
theorem countP_onWire_of_get {inner : Link.Log} (hp : NoneReads p)
    (h : ∀ request answer, ⟨.send request, answer⟩ ∈ inner → request.method = .get) :
    inner.countP (onWire p) = 0 := by
  refine List.countP_eq_zero.mpr ?_
  rintro ⟨_ | request, answer⟩ hmem hwire
  · cases hwire
  · have hnone : p ⟨.send request, answer⟩ = false := hp request answer (h request answer hmem)
    cases hwire.symm.trans hnone

/-- A call costs on a machine what its attempts cost, and what bringing the daemon back up costs. -/
theorem countP_answerCall_le (hp : OfSends p) {a : Access}
    {recovery : Host.Asking (Except Error Unit)} {n : Nat} (hrecovery : AtMost p n recovery)
    {calls : Client.Log} {log : List (Exchange Host.Call Host.Call.Answer)}
    (h : Spelled (a.answerCall recovery) calls log) :
    log.countP p ≤
      calls.countP (Client.inAttempt (onWire p)) + calls.countP Client.isRecovery * n := by
  refine h.countP_le fun q answer inner hinner => ?_
  cases q with
  | link question => exact Nat.le_of_eq (countP_answerLink hp a hinner)
  | recover =>
    show _ ≤ 0 + n
    rw [Nat.zero_add]
    exact hrecovery _ _ hinner

end MeshControl.Daemon.Access
