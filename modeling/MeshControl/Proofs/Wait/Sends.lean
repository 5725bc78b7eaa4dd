import MeshControl.Proofs.Daemon.OnMachine
import MeshControl.Proofs.Wait.Polls
import MeshControl.Wait.Polling

/-!
# What waiting sends

A wait on a machine sends what its polls send, and a poll is a single attempt to read the state of
the daemon: at most one request, which posts nothing.  An attempt has no way to bring the daemon
back up, so neither has a wait.
-/

namespace MeshControl.Wait

open Dialogue MeshControl.Daemon MeshControl.Host

/-- Whether an exchange is a poll. -/
def isPoll {C : Type} : Exchange (Call C) Call.Answer → Bool
  | ⟨.poll, _⟩ => true
  | _ => false

theorem length_polls_eq_countP {C : Type} (log : Log C) :
    (polls log).length = log.countP isPoll := by
  rw [polls, List.length_filterMap_eq_countP]
  congr 1
  funext x
  obtain ⟨_ | _ | _ | _, answer⟩ := x <;> rfl

/-- A wait for one condition is a wait for all of a single one. -/
theorem waitAll_singleton {C : Type} (describe : C → String) (max : Nat) (condition : C) :
    waitAll describe max [condition] = wait describe max condition := by
  refine bind_eq_self fun result => ?_
  rcases result with timeout | _
  · rfl
  · rfl

/-- **A poll is a call that may not be retried**, so it makes no use of a way to bring the daemon
back up, whatever way there is. -/
theorem answerCall_poll (access : Access) (interval : Nat)
    (recovery : Host.Asking (Except Error Unit)) (canRecover : Bool) :
    answerCall access interval .poll =
      (access.callOnHost recovery (Client.status ⟨access.base, canRecover⟩ false)).bind
        fun result => done result.toOption := by
  rw [Client.status, Access.callOnHost_call_false]
  rfl

/-- Waiting for one condition costs what as many polls as allowed cost. -/
theorem atMost_onHost {p : Exchange Host.Call Host.Call.Answer → Bool}
    (hp : OfSends p) {access : Access} {policy : Policy}
    {condition : Condition} {n : Nat}
    (hpoll : AtMost p n (answerCall access policy.interval .poll)) :
    AtMost p (policy.attempts * n) (onHost access policy [condition]) := by
  intro log result h
  obtain ⟨outer, houter, hspelled⟩ := branch_answerWith_iff.mp h
  rw [waitAll_singleton] at houter
  have hpolls := (branch_wait_iff.mp houter).regular.length_polls
  have hle : log.countP p ≤ outer.countP (fun _ => false) + outer.countP isPoll * n := by
    refine hspelled.countP_le fun q answer inner hinner => ?_
    cases q with
    | poll =>
      show _ ≤ 0 + n
      rw [Nat.zero_add]
      exact hpoll _ _ hinner
    | check condition snapshot =>
      obtain ⟨rfl, rfl⟩ := branch_done_iff.mp hinner
      exact Nat.zero_le _
    | pause => exact atMost_query (fun _ => hp _ rfl) _ _ hinner
    | report event => exact atMost_query (fun _ => hp _ rfl) _ _ hinner
  have hnone : outer.countP (fun _ => false) = 0 :=
    List.countP_eq_zero.mpr fun _ _ => Bool.false_ne_true
  rw [hnone, Nat.zero_add, ← length_polls_eq_countP] at hle
  exact Nat.le_trans hle (Nat.mul_le_mul_right n hpolls)

/-- A poll is one attempt to read. -/
theorem atMost_poll {p : Exchange Host.Call Host.Call.Answer → Bool}
    (hp : OfSends p) {access : Access} {interval n : Nat}
    (h : ∀ inner result,
      Link.Attempted Snapshot.ofNode? {} access.base (.get "/api/status") inner result →
        inner.countP (Access.onWire p) ≤ n) :
    AtMost p n (answerCall access interval .poll) := by
  have hattempt : AtMost p n (access.onHost (statusOnce access.base)) := by
    intro log result hlog
    obtain ⟨inner, hinner, hle⟩ := Access.countP_onHost hp hlog
    have hattempted := Link.branch_once_iff (e := .get "/api/status").mp hinner
    exact Nat.le_trans hle (h inner result hattempted)
  exact hattempt.then_free fun _ => atMost_done _

theorem atMost_isSend_onHost (access : Access) (policy : Policy) (condition : Condition) :
    AtMost isSend policy.attempts (onHost access policy [condition]) := by
  have hpoll : AtMost isSend 1 (answerCall access policy.interval .poll) := by
    refine atMost_poll ofSends_isSend fun inner result h => ?_
    rw [Access.onWire_isSend]
    exact h.countP_isSend_le
  have h : AtMost isSend (policy.attempts * 1) (onHost access policy [condition]) :=
    atMost_onHost ofSends_isSend hpoll
  rwa [Nat.mul_one] at h

/-- Waiting only reads. -/
theorem atMost_onHost_of_get {p : Exchange Host.Call Host.Call.Answer → Bool} (hp : OfSends p)
    (hreads : NoneReads p) (access : Access) (policy : Policy) (condition : Condition) :
    AtMost p 0 (onHost access policy [condition]) := by
  have hpoll : AtMost p 0 (answerCall access policy.interval .poll) := by
    refine atMost_poll hp fun inner result h => Nat.le_of_eq ?_
    exact Access.countP_onWire_of_get hreads fun request answer hmem => h.method_eq hmem
  exact atMost_onHost hp hpoll

end MeshControl.Wait
