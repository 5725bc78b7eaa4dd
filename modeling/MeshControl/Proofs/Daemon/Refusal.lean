import MeshControl.Proofs.Daemon.Restart
import MeshControl.Proofs.Daemon.OnMachine

/-!
# When the first request is refused

An attempt on a machine sends its request last, or nothing at all (`Reached`).  A part of a run heeds a
permission (`Heeds`) if, once its first request was refused, nothing is done any more without that
permission.  A call that may be retried does, where what brings the daemon back up is guarded
(`heeds_call`), and so does whatever goes on only behind such a call (`Heeds.bind`).
-/

namespace MeshControl.Daemon

open Dialogue MeshControl.Host MeshControl.Http MeshControl.Json

variable {α β ε ε' : Type}

/-! ### An attempt on a machine -/

/-- The ways of an attempt on a machine: nothing is sent, or one request, and that last. -/
inductive Reached : Log → Except Error α → Prop
  | unsent {log : Log} (offline : ∀ x ∈ log, isSend x = false) (e : Error)
      (other : wasRefused (.error e : Except Error α) = false) : Reached log (.error e)
  | sent {before : Log} (offline : ∀ x ∈ before, isSend x = false) (request : Request)
      (answer : Except Failure Answer) (result : Except Error α)
      (refused : wasRefused result = true ↔ answer = .error .refused)
      (answered : ∀ value, result = .ok value → ∃ told, answer = .ok told) :
      Reached (before ++ [⟨.send request, answer⟩]) result

section Attempt

variable {access : Access} {e : Errand} {decode? : Node → Option α} {default : α} {base : BaseUrl}
  {log : Log} {result : Except Error α}

/-- Nothing is sent for a secret. -/
theorem offline_of_secret {answer : Except SecretError Secret}
    (h : (access.answerLink .secret).Branch log answer) : ∀ x ∈ log, isSend x = false :=
  (atMost_onFiles ofSends_isSend _).eq_false h

/-- Nothing is sent while an errand is prepared. -/
theorem offline_of_prepared {inner : Link.Log} {built : Except Failure Request}
    (h : Link.Prepared base e inner built) (hspelled : Spelled access.answerLink inner log) :
    ∀ x ∈ log, isSend x = false := by
  cases h with
  | get route build =>
    cases hspelled
    exact fun _ hx => absurd hx List.not_mem_nil
  | post route fields secret build =>
    obtain _ | ⟨head, _ | _⟩ := hspelled
    rw [List.append_nil]
    exact offline_of_secret head

/-- What was prepared and sent is spelled out as what was prepared, and the request. -/
theorem spelled_sent {inner : Link.Log} {built : Except Failure Request}
    (h : Link.Prepared base e inner built) {request : Request} {answer : Except Failure Answer}
    (hspelled : Spelled access.answerLink (inner ++ [⟨.send request, answer⟩]) log) :
    ∃ before, (∀ x ∈ before, isSend x = false) ∧ log = before ++ [⟨.send request, answer⟩] := by
  cases h with
  | get route build =>
    obtain _ | ⟨head, _ | _⟩ := hspelled
    obtain rfl := branch_query_iff.mp head
    exact ⟨[], fun _ hx => absurd hx List.not_mem_nil, rfl⟩
  | post route fields secret build =>
    obtain _ | ⟨head, _ | ⟨last, _ | _⟩⟩ := hspelled
    obtain rfl := branch_query_iff.mp last
    exact ⟨_, offline_of_secret head, rfl⟩

theorem reached_of_branch
    (h : (access.onHost (e.once decode? default base)).Branch log result) : Reached log result := by
  obtain ⟨inner, hinner, hspelled⟩ := branch_answerWith_iff.mp h
  cases Link.branch_once_iff.mp hinner with
  | unsigned signs cause =>
    obtain _ | ⟨head, _ | _⟩ := hspelled
    rw [List.append_nil]
    exact .unsent (offline_of_secret head) _ rfl
  | @unbuilt _ failure prepared =>
    refine .unsent (offline_of_prepared prepared hspelled) _ ?_
    cases hrefused : wasRefused
        (.error (exchangeError (base.route e.route) failure) : Except Error α) with
    | false => rfl
    | true =>
      obtain ⟨url, heq⟩ := wasRefused_iff.mp hrefused
      cases failure with
      | refused => exact absurd rfl prepared.failure_ne
      | _ => cases heq
  | sent prepared answer =>
    obtain ⟨before, hbefore, rfl⟩ := spelled_sent prepared hspelled
    refine .sent hbefore _ answer _ Link.wasRefused_exchangeResult ?_
    intro value hvalue
    rcases answer with failure | told
    · cases hvalue
    · exact ⟨told, rfl⟩

end Attempt

/-! ### The first request -/

/-- An item that the first part lacks stands in what follows. -/
theorem exists_of_notMem_left {first rest before after : List α} {x : α}
    (h : first ++ rest = before ++ x :: after) (hx : x ∉ first) :
    ∃ more, before = first ++ more ∧ rest = more ++ x :: after := by
  obtain ⟨more, rfl, hmore⟩ | ⟨more, rfl, hmore⟩ := List.append_eq_append_iff.mp h
  · exact ⟨more, rfl, hmore⟩
  · cases more with
    | nil => exact ⟨[], by simp, by simpa using hmore.symm⟩
    | cons y more =>
      injection hmore with hhead
      exact absurd (hhead ▸ List.mem_append_right before List.mem_cons_self) hx

/-- An item that the last part lacks stands in what comes before. -/
theorem exists_of_notMem_right {first rest before after : List α} {x : α}
    (h : first ++ rest = before ++ x :: after) (hx : x ∉ rest) :
    ∃ more, first = before ++ x :: more ∧ after = more ++ rest := by
  obtain ⟨more, rfl, hmore⟩ | ⟨more, rfl, hmore⟩ := List.append_eq_append_iff.mp h
  · exact absurd (hmore ▸ List.mem_append_right more List.mem_cons_self) hx
  · obtain ⟨rfl, rfl⟩ | ⟨more, rfl, rfl⟩ := List.cons_eq_append_iff.mp hmore
    · exact absurd List.mem_cons_self hx
    · exact ⟨more, rfl, rfl⟩

/-- The first item of a kind is one item. -/
theorem eq_of_first {p : α → Bool} {before before' after after' : List α} {x y : α}
    (h : before ++ x :: after = before' ++ y :: after') (hbefore : ∀ z ∈ before, p z = false)
    (hbefore' : ∀ z ∈ before', p z = false) (hx : p x = true) (hy : p y = true) :
    before = before' ∧ x = y ∧ after = after' := by
  obtain ⟨more, rfl, hmore⟩ | ⟨more, rfl, hmore⟩ := List.append_eq_append_iff.mp h
  · cases more with
    | nil =>
      rw [List.nil_append] at hmore
      injection hmore with hhead htail
      exact ⟨(List.append_nil before).symm, hhead, htail⟩
    | cons z more =>
      -- `x` would be one of the items before `y`
      injection hmore with hhead
      have hz := hbefore' z (List.mem_append_right before List.mem_cons_self)
      rw [← hhead, hx] at hz
      cases hz
  · cases more with
    | nil =>
      rw [List.nil_append] at hmore
      injection hmore with hhead htail
      exact ⟨List.append_nil before', hhead.symm, htail.symm⟩
    | cons z more =>
      injection hmore with hhead
      have hz := hbefore z (List.mem_append_right before' List.mem_cons_self)
      rw [← hhead, hy] at hz
      cases hz

/-- A part of a run that does nothing without a permission once its first request was refused, and
that does not succeed without an answer. -/
structure Heeds (granted : Log → Prop) (deed : Exchange Call Call.Answer → Prop)
    (d : Asking (Except ε α)) : Prop where
  kept : ∀ before request after result,
    d.Branch (before ++ ⟨.send request, .error .refused⟩ :: after) result →
      (∀ x ∈ before, isSend x = false) → Kept granted deed (∃ e, result = .error e) after
  answered : ∀ log value, d.Branch log (.ok value) → ∃ request told, ⟨.send request, .ok told⟩ ∈ log

variable {granted : Log → Prop} {deed : Exchange Call Call.Answer → Prop}

/-- What goes on only behind a part that heeds a permission heeds it too. -/
theorem Heeds.bind (hg : Lasting granted) {d : Asking (Except ε α)}
    {f : Except ε α → Asking (Except ε' β)} (hd : Heeds granted deed d)
    (hf : ∀ e, ∃ e', f (.error e) = done (.error e')) : Heeds granted deed (d.bind f) where
  kept := by
    intro before request after result h hoffline
    obtain ⟨first, e | value, rest, hfirst, hrest, hlog⟩ := branch_bind_iff.mp h
    · obtain ⟨e', he⟩ := hf e
      rw [he] at hrest
      obtain ⟨rfl, rfl⟩ := branch_done_iff.mp hrest
      rw [List.append_nil] at hlog
      obtain ⟨hbehind, hwithout⟩ := hd.kept before request after _ (hlog ▸ hfirst) hoffline
      exact ⟨hbehind, fun hnot => ⟨⟨e', rfl⟩, (hwithout hnot).2⟩⟩
    · -- the first part has sent something, so the refused request is one of its requests
      obtain ⟨asked, told, hasked⟩ := hd.answered _ _ hfirst
      obtain ⟨more, rfl, hmore⟩ | ⟨more, rfl, hmore⟩ := List.append_eq_append_iff.mp hlog
      · obtain ⟨rfl, rfl⟩ | ⟨others, rfl, rfl⟩ := List.cons_eq_append_iff.mp hmore
        · rw [List.append_nil] at hasked
          cases hoffline _ hasked
        · have hkept := hd.kept before request others _ hfirst hoffline
          have hgranted : granted others := by
            refine Classical.byContradiction fun hnot => ?_
            obtain ⟨e, he⟩ := (hkept.without hnot).1
            cases he
          refine ⟨hkept.behind.append hg (.inl hgranted), fun hnot => ?_⟩
          exact absurd (hg.append hgranted) hnot
      · cases hoffline _ (List.mem_append_left more hasked)
  answered := by
    intro log value h
    obtain ⟨first, e | middle, rest, hfirst, hrest, rfl⟩ := branch_bind_iff.mp h
    · obtain ⟨e', he⟩ := hf e
      rw [he] at hrest
      obtain ⟨_, hok⟩ := branch_done_iff.mp hrest
      cases hok
    · obtain ⟨asked, told, hasked⟩ := hd.answered _ _ hfirst
      exact ⟨asked, told, List.mem_append_left rest hasked⟩

/-- What sends nothing may come before a part that heeds a permission. -/
theorem Heeds.after_offline {d : Asking α} {f : α → Asking (Except ε β)}
    (hd : AtMost isSend 0 d) (hf : ∀ value, Heeds granted deed (f value)) :
    Heeds granted deed (d.bind f) where
  kept := by
    intro before request after result h hoffline
    obtain ⟨first, value, rest, hfirst, hrest, hlog⟩ := branch_bind_iff.mp h
    have hnone := hd.eq_false hfirst
    obtain ⟨more, rfl, rfl⟩ := exists_of_notMem_left hlog.symm fun hx => nomatch hnone _ hx
    refine (hf value).kept more request after result hrest fun x hx => ?_
    exact hoffline x (List.mem_append_right first hx)
  answered := by
    intro log value h
    obtain ⟨first, middle, rest, hfirst, hrest, rfl⟩ := branch_bind_iff.mp h
    obtain ⟨asked, told, hasked⟩ := (hf middle).answered _ _ hrest
    exact ⟨asked, told, List.mem_append_right first hasked⟩

/-- **A refused call heeds what guards the recovery.** -/
theorem heeds_call (hg : Lasting granted) (access : Access)
    {recovery : Asking (Except Error Unit)} (hrecovery : Guarded granted deed recovery)
    (c : Client) (hcan : c.canRecover = true) (e : Errand) (decode? : Node → Option α)
    (default : α) :
    Heeds granted deed (access.callOnHost recovery (e.run c decode? default true)) := by
  rw [Errand.run_eq_call, access.callOnHost_call_true recovery c hcan]
  have hagain : Guarded granted deed
      (recovery.bind (access.again (e.once decode? default c.base))) :=
    hrecovery.bind hg fun cause => ⟨cause, rfl⟩
  constructor
  · intro before request after result h hoffline
    obtain ⟨first, outcome, rest, hfirst, hrest, hlog⟩ := branch_bind_iff.mp h
    cases reached_of_branch hfirst with
    | unsent hnone cause other =>
      rw [Access.afterAttempt, other] at hrest
      obtain ⟨rfl, rfl⟩ := branch_done_iff.mp hrest
      rw [List.append_nil] at hlog
      cases hnone _ (hlog ▸ List.mem_append_right before List.mem_cons_self)
    | sent hnone asked answer _ refused answered =>
      rw [List.append_assoc] at hlog
      obtain ⟨rfl, heq, rfl⟩ := eq_of_first hlog hoffline hnone rfl rfl
      cases heq
      rw [Access.afterAttempt, refused.mpr rfl] at hrest
      exact hagain.kept hg hrest
  · intro log value h
    obtain ⟨first, outcome, rest, hfirst, hrest, rfl⟩ := branch_bind_iff.mp h
    cases hrefused : wasRefused outcome with
    | false =>
      rw [Access.afterAttempt, hrefused] at hrest
      obtain ⟨rfl, rfl⟩ := branch_done_iff.mp hrest
      cases reached_of_branch hfirst with
      | sent hnone asked answer _ refused answered =>
        obtain ⟨told, rfl⟩ := answered value rfl
        exact ⟨asked, told, by simp⟩
    | true =>
      rw [Access.afterAttempt, hrefused, if_pos rfl] at hrest
      obtain ⟨recovered, outcome, last, _, hlast, rfl⟩ := branch_bind_iff.mp hrest
      rcases outcome with cause | _
      · obtain ⟨_, hok⟩ := branch_done_iff.mp hlast
        cases hok
      · cases reached_of_branch hlast with
        | sent hnone asked answer _ refused answered =>
          obtain ⟨told, rfl⟩ := answered value rfl
          exact ⟨asked, told, by simp⟩

end MeshControl.Daemon
