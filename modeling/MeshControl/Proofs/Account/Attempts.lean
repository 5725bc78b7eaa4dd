import Mathlib.Data.List.Basic
import Mathlib.Data.List.TakeWhile
import Mathlib.Order.Nat
import MeshControl.Proofs.Account.History

/-!
# How often a call tries

A call carries its operation out at most twice, with a login in between, and renews its session only
after a success.  The bounds come from one invariant of `Performed`: with `n` logins left there are
at most `n + 1` attempts and at most `n` logins, and every attempt but the last was rejected because
of the session.

* `attempts`, `prompts`, `obtained`, `renewals`, `serverCalls`: what a log holds, question by
  question.
* `Orderly`: the order of a call, as a structure of laws on its log and its result.
* `call_orderly`: every call is orderly, whatever its surroundings answer.
-/

namespace MeshControl.Account

/-- Whether an error is one that an exchange with the account server can end with. -/
def Error.IsOfExchange : Error → Prop
  | .server _ _ | .transport _ _ | .undecodable _ _ => True
  | _ => False

/-- Whether an error is neither the server's own nor the verdict of a session. -/
def Error.IsPlain (e : Error) : Prop :=
  (∀ url message, e ≠ .server url message) ∧ e ≠ .stillRejected

/-- A refused login is told as such. -/
theorem Session.isPlain_loginError {e : Error} (h : e.IsOfExchange) : (loginError e).IsPlain := by
  cases e with
  | server url message => exact ⟨fun _ _ => nofun, nofun⟩
  | transport url cause => exact ⟨fun _ _ => nofun, nofun⟩
  | undecodable url detail => exact ⟨fun _ _ => nofun, nofun⟩
  | _ => cases h

/-- A failed operation is told as such. -/
theorem Session.isPlain_operationError {e : Error} (h : e.IsOfExchange) :
    (operationError e).IsPlain := by
  cases e with
  | server url message => exact ⟨fun _ _ => nofun, nofun⟩
  | transport url cause => exact ⟨fun _ _ => nofun, nofun⟩
  | undecodable url detail => exact ⟨fun _ _ => nofun, nofun⟩
  | _ => cases h

namespace Session

open Dialogue

variable {α : Type}

/-! ### What a log holds -/

/-- The attempt that an exchange is, with its token and its outcome. -/
def attempt? : Exchange Call (Call.Answer α) → Option (String × Except Error α)
  | ⟨.perform token, outcome⟩ => some (token, outcome)
  | _ => none

/-- The attempts at the operation, each with its token and its outcome. -/
def attempts (log : Log α) : List (String × Except Error α) :=
  log.filterMap attempt?

/-- The answers to the question who logs in. -/
def prompts (log : Log α) : List (Except Error Credentials) :=
  log.filterMap fun
    | ⟨.credentials, answer⟩ => some answer
    | _ => none

/-- The answers to requests for a token. -/
def obtained (log : Log α) : List (Except Error String) :=
  log.filterMap fun
    | ⟨.obtain _, answer⟩ => some answer
    | _ => none

/-- The tokens that were to be renewed. -/
def renewals (log : Log α) : List String :=
  log.filterMap fun
    | ⟨.renew token, _⟩ => some token
    | _ => none

/-- Whether a question goes to the account server. -/
def Call.isServed : Call → Bool
  | .obtain _ | .renew _ | .perform _ => true
  | _ => false

/-- The questions that went to the account server. -/
def serverCalls (log : Log α) : List Call :=
  (log.map (·.question)).filter Call.isServed

/-- What was asked before the first attempt. -/
def beforeAttempts (log : Log α) : Log α :=
  log.takeWhile fun e => (attempt? e).isNone

/-- What was asked from the first attempt on. -/
def fromAttempts (log : Log α) : Log α :=
  log.dropWhile fun e => (attempt? e).isNone

/-- The answers that collaborators can give: the account server fails with errors of exchanges, and
the user neither with one of the server's nor with the verdict that is the session's own. -/
def IsExpected : Exchange Call (Call.Answer α) → Prop
  | ⟨.credentials, .error e⟩ => e.IsPlain
  | ⟨.obtain _, .error e⟩ | ⟨.renew _, .error e⟩ | ⟨.perform _, .error e⟩ => e.IsOfExchange
  | _ => True

/-- The order that a call keeps. -/
structure Orderly (log : Log α) (result : Except Error α) : Prop where
  /-- There are at most two attempts. -/
  length_attempts : (attempts log).length ≤ 2
  /-- There is at most one login before them. -/
  early_login : (prompts (beforeAttempts log)).length ≤ 1 ∧
    (obtained (beforeAttempts log)).length ≤ 1
  /-- It takes place only if no token is kept. -/
  early_login_cause : prompts (beforeAttempts log) ≠ [] ∨ obtained (beforeAttempts log) ≠ [] →
    log.head? = some ⟨.load, .ok none⟩
  /-- There is at most one login after the first attempt. -/
  late_login : (prompts (fromAttempts log)).length ≤ 1 ∧ (obtained (fromAttempts log)).length ≤ 1
  /-- It takes place only if the first attempt was rejected because of the session. -/
  late_login_cause : prompts (fromAttempts log) ≠ [] ∨ obtained (fromAttempts log) ≠ [] →
    ∃ token e, (attempts log).head? = some (token, .error e) ∧ e.kind ≠ .other
  /-- A second attempt follows a rejected one and has the token of the login between them. -/
  second_attempt : ∀ first second, attempts log = [first, second] →
    (∃ token e, first = (token, .error e) ∧ e.kind ≠ .other) ∧
      obtained (fromAttempts log) = [.ok second.1]
  /-- There is at most one renewal. -/
  length_renewals : (renewals log).length ≤ 1
  /-- It is that of the token of an attempt that succeeded, and the server is asked nothing after
  it. -/
  renewal : ∀ token ∈ renewals log, (∃ value, (attempts log).getLast? = some (token, .ok value)) ∧
    (serverCalls log).getLast? = some (.renew token)
  /-- The call yields the value of an attempt that succeeded. -/
  result_ok_iff : ∀ value, result = .ok value ↔ ∃ token, (token, .ok value) ∈ attempts log
  /-- The call gives up if both attempts were rejected because of the session. -/
  stillRejected_iff : result = .error .stillRejected ↔
    ∃ first token e, attempts log = [first, (token, .error e)] ∧ e.kind ≠ .other
  /-- Any other failure of the operation ends the call at once. -/
  other_failure : ∀ token e, (token, .error e) ∈ attempts log → e.kind = .other →
    log.getLast? = some ⟨.perform token, .error e⟩ ∧ result = .error (operationError e)
  /-- A refused login ends the call. -/
  refused_login : ∀ e, .error e ∈ obtained log → result = .error (loginError e)
  /-- The call never fails with the server's own error. -/
  result_ne_server : ∀ url message, result ≠ .error (.server url message)

section Log

variable (first second log : Log α) (token : String) (outcome : Except Error α)

@[simp]
theorem attempts_append : attempts (first ++ second) = attempts first ++ attempts second :=
  List.filterMap_append

@[simp]
theorem prompts_append : prompts (first ++ second) = prompts first ++ prompts second :=
  List.filterMap_append

@[simp]
theorem obtained_append : obtained (first ++ second) = obtained first ++ obtained second :=
  List.filterMap_append

@[simp]
theorem renewals_append : renewals (first ++ second) = renewals first ++ renewals second :=
  List.filterMap_append

@[simp]
theorem serverCalls_append :
    serverCalls (first ++ second) = serverCalls first ++ serverCalls second := by
  rw [serverCalls, List.map_append, List.filter_append, serverCalls, serverCalls]

@[simp]
theorem attempts_perform :
    attempts (⟨.perform token, outcome⟩ :: log) = (token, outcome) :: attempts log := rfl

@[simp]
theorem prompts_perform : prompts (⟨.perform token, outcome⟩ :: log) = prompts log := rfl

@[simp]
theorem obtained_perform : obtained (⟨.perform token, outcome⟩ :: log) = obtained log := rfl

@[simp]
theorem renewals_perform : renewals (⟨.perform token, outcome⟩ :: log) = renewals log := rfl

@[simp]
theorem serverCalls_perform :
    serverCalls (⟨.perform token, outcome⟩ :: log) = .perform token :: serverCalls log := rfl

end Log

/-! ### Logins and renewals -/

section Login

variable {log : Log α} {result : Except Error String}

theorem LoggedIn.attempts_eq_nil (h : LoggedIn log result) : attempts log = [] := by
  cases h with
  | unnamed e => rfl
  | named who opened => cases opened <;> rfl

theorem LoggedIn.renewals_eq_nil (h : LoggedIn log result) : renewals log = [] := by
  cases h with
  | unnamed e => rfl
  | named who opened => cases opened <;> rfl

/-- The attempts behind a rejected one and a login. -/
theorem LoggedIn.attempts_reopened (h : LoggedIn log result) {token : String}
    {outcome : Except Error α} {rest : Log α} :
    attempts (⟨.perform token, outcome⟩ :: (log ++ rest)) = (token, outcome) :: attempts rest := by
  rw [attempts_perform, attempts_append, h.attempts_eq_nil, List.nil_append]

/-- The renewals behind a rejected attempt and a login. -/
theorem LoggedIn.renewals_reopened (h : LoggedIn log result) {token : String}
    {outcome : Except Error α} {rest : Log α} :
    renewals (⟨.perform token, outcome⟩ :: (log ++ rest)) = renewals rest := by
  rw [renewals_perform, renewals_append, h.renewals_eq_nil, List.nil_append]

theorem LoggedIn.length_prompts (h : LoggedIn log result) : (prompts log).length = 1 := by
  cases h with
  | unnamed e => rfl
  | named who opened => cases opened <;> rfl

theorem LoggedIn.length_obtained_le (h : LoggedIn log result) : (obtained log).length ≤ 1 := by
  cases h with
  | unnamed e => exact Nat.zero_le 1
  | named who opened => cases opened <;> exact Nat.le_refl 1

/-- A login that succeeded yields the token that was obtained. -/
theorem LoggedIn.obtained_eq {token : String} (h : LoggedIn log (.ok token)) :
    obtained log = [.ok token] := by
  cases h with
  | named who opened => cases opened; rfl

/-- A login fails with the refusal of the server, if there is one. -/
theorem LoggedIn.result_eq_of_refused (h : LoggedIn log result) {e : Error}
    (he : .error e ∈ obtained log) : result = .error (loginError e) := by
  cases h with
  | unnamed f => cases he
  | named who opened =>
    cases opened with
    | refused f =>
      obtain rfl := Except.error.inj (List.mem_singleton.mp he)
      rfl
    | unsaved token f => cases List.mem_singleton.mp he
    | saved token => cases List.mem_singleton.mp he

/-- A login fails with an error that is neither the server's own nor the verdict of the session. -/
theorem LoggedIn.isPlain {e : Error} (h : LoggedIn log (.error e))
    (expected : ∀ x ∈ log, IsExpected x) : e.IsPlain := by
  cases h with
  | unnamed e => exact expected _ (List.mem_singleton_self _)
  | named who opened =>
    cases opened with
    | refused f => exact isPlain_loginError (expected ⟨.obtain who, .error f⟩ (by simp))
    | unsaved token f => exact ⟨fun _ _ => nofun, nofun⟩

end Login

section Renewal

variable {token : String} {log : Log α}

theorem Renewed.attempts_eq_nil (h : Renewed token log) : attempts log = [] := by
  cases h <;> rfl

theorem Renewed.prompts_eq_nil (h : Renewed token log) : prompts log = [] := by
  cases h <;> rfl

theorem Renewed.obtained_eq_nil (h : Renewed token log) : obtained log = [] := by
  cases h <;> rfl

theorem Renewed.renewals_eq (h : Renewed token log) : renewals log = [token] := by
  cases h <;> rfl

theorem Renewed.serverCalls_eq (h : Renewed token log) : serverCalls log = [.renew token] := by
  cases h <;> rfl

end Renewal

/-! ### Attempts with logins left -/

namespace Performed

variable {n : Nat} {token : String} {log : Log α} {result : Except Error α}

/-- The log begins with an attempt with the given token. -/
theorem exists_eq_cons (h : Performed n token log result) :
    ∃ outcome rest, log = ⟨.perform token, outcome⟩ :: rest := by
  cases h with
  | succeeded _ _ value renewed => exact ⟨.ok value, _, rfl⟩
  | failed _ _ e other => exact ⟨.error e, _, rfl⟩
  | exhausted _ e rejected => exact ⟨.error e, _, rfl⟩
  | unopened n _ e f rejected loggedIn => exact ⟨.error e, _, rfl⟩
  | reopened n _ e new rejected loggedIn performed => exact ⟨.error e, _, rfl⟩

/-- The first attempt is made with the given token. -/
theorem exists_attempts_eq (h : Performed n token log result) :
    ∃ outcome rest, attempts log = (token, outcome) :: rest := by
  obtain ⟨outcome, rest, rfl⟩ := h.exists_eq_cons
  exact ⟨outcome, attempts rest, rfl⟩

/-- There is one attempt more than there are logins left, at the most. -/
theorem length_attempts_le (h : Performed n token log result) : (attempts log).length ≤ n + 1 := by
  induction h with
  | succeeded n token value renewed =>
    rw [attempts_perform, renewed.attempts_eq_nil]
    exact Nat.le_add_left 1 n
  | failed n token e other => exact Nat.le_add_left 1 n
  | exhausted token e rejected => exact Nat.le_refl 1
  | unopened n token e f rejected loggedIn =>
    rw [attempts_perform, loggedIn.attempts_eq_nil]
    exact Nat.le_add_left 1 (n + 1)
  | reopened n token e new rejected loggedIn performed ih =>
    rw [loggedIn.attempts_reopened]
    exact Nat.succ_le_succ ih

/-- The user is asked no more often than there are logins left. -/
theorem length_prompts_le (h : Performed n token log result) : (prompts log).length ≤ n := by
  induction h with
  | succeeded n token value renewed =>
    rw [prompts_perform, renewed.prompts_eq_nil]
    exact Nat.zero_le n
  | failed n token e other => exact Nat.zero_le n
  | exhausted token e rejected => exact Nat.le_refl 0
  | unopened n token e f rejected loggedIn =>
    rw [prompts_perform, loggedIn.length_prompts]
    exact Nat.le_add_left 1 n
  | reopened n token e new rejected loggedIn performed ih =>
    rw [prompts_perform, prompts_append, List.length_append, loggedIn.length_prompts, Nat.add_comm]
    exact Nat.succ_le_succ ih

/-- No more tokens are asked for than there are logins left. -/
theorem length_obtained_le (h : Performed n token log result) : (obtained log).length ≤ n := by
  induction h with
  | succeeded n token value renewed =>
    rw [obtained_perform, renewed.obtained_eq_nil]
    exact Nat.zero_le n
  | failed n token e other => exact Nat.zero_le n
  | exhausted token e rejected => exact Nat.le_refl 0
  | unopened n token e f rejected loggedIn =>
    rw [obtained_perform]
    exact Nat.le_trans loggedIn.length_obtained_le (Nat.le_add_left 1 n)
  | reopened n token e new rejected loggedIn performed ih =>
    rw [obtained_perform, obtained_append, loggedIn.obtained_eq, List.singleton_append]
    exact Nat.succ_le_succ ih

/-- The tokens of the attempts behind the first are those of logins, in order. -/
theorem tokens_prefix (h : Performed n token log result) :
    ((attempts log).tail.map fun a => (.ok a.1 : Except Error String)) <+: obtained log := by
  induction h with
  | succeeded n token value renewed =>
    rw [attempts_perform, renewed.attempts_eq_nil]
    exact List.nil_prefix
  | failed n token e other => exact List.nil_prefix
  | exhausted token e rejected => exact List.nil_prefix
  | unopened n token e f rejected loggedIn =>
    rw [attempts_perform, loggedIn.attempts_eq_nil]
    exact List.nil_prefix
  | reopened n token e new rejected loggedIn performed ih =>
    -- the token of the login is that of the next attempt, so it heads both lists
    obtain ⟨outcome, rest, hrest⟩ := performed.exists_attempts_eq
    rw [hrest] at ih
    rw [loggedIn.attempts_reopened, hrest, obtained_perform,
      obtained_append, loggedIn.obtained_eq]
    exact List.cons_prefix_cons.mpr ⟨rfl, ih⟩

/-- Each attempt but the last was rejected because of the session. -/
theorem rejected_of_mem_dropLast (h : Performed n token log result) :
    ∀ a ∈ (attempts log).dropLast, ∃ e, a.2 = .error e ∧ e.kind ≠ .other := by
  induction h with
  | succeeded n token value renewed =>
    rw [attempts_perform, renewed.attempts_eq_nil]
    exact nofun
  | failed n token e other => exact nofun
  | exhausted token e rejected => exact nofun
  | unopened n token e f rejected loggedIn =>
    rw [attempts_perform, loggedIn.attempts_eq_nil]
    exact nofun
  | reopened n token e new rejected loggedIn performed ih =>
    obtain ⟨outcome, rest, hrest⟩ := performed.exists_attempts_eq
    rw [hrest] at ih
    rw [loggedIn.attempts_reopened, hrest,
      List.dropLast_cons_cons]
    intro a ha
    rcases List.mem_cons.mp ha with rfl | ha
    · exact ⟨e, rfl, rejected⟩
    · exact ih a ha

/-- A login takes place only if the first attempt was rejected because of the session. -/
theorem rejected_of_login (h : Performed n token log result)
    (login : prompts log ≠ [] ∨ obtained log ≠ []) :
    ∃ e, (attempts log).head? = some (token, .error e) ∧ e.kind ≠ .other := by
  cases h with
  | succeeded _ _ value renewed =>
    rw [prompts_perform, obtained_perform, renewed.prompts_eq_nil, renewed.obtained_eq_nil] at login
    exact login.elim (absurd rfl) (absurd rfl)
  | failed _ _ e other => exact login.elim (absurd rfl) (absurd rfl)
  | exhausted _ e rejected => exact ⟨e, rfl, rejected⟩
  | unopened n _ e f rejected loggedIn => exact ⟨e, rfl, rejected⟩
  | reopened n _ e new rejected loggedIn performed => exact ⟨e, rfl, rejected⟩

/-- There is at most one renewal. -/
theorem length_renewals_le (h : Performed n token log result) : (renewals log).length ≤ 1 := by
  induction h with
  | succeeded n token value renewed =>
    rw [renewals_perform, renewed.renewals_eq]
    exact Nat.le_refl 1
  | failed n token e other => exact Nat.zero_le 1
  | exhausted token e rejected => exact Nat.zero_le 1
  | unopened n token e f rejected loggedIn =>
    rw [renewals_perform, loggedIn.renewals_eq_nil]
    exact Nat.zero_le 1
  | reopened n token e new rejected loggedIn performed ih =>
    rw [loggedIn.renewals_reopened]
    exact ih

/-- The token that is renewed is that of the last attempt, which succeeded, and the server is asked
nothing after it. -/
theorem renewal (h : Performed n token log result) {old : String} (ho : old ∈ renewals log) :
    (∃ value, (attempts log).getLast? = some (old, .ok value)) ∧
      (serverCalls log).getLast? = some (.renew old) := by
  induction h with
  | succeeded n token value renewed =>
    rw [renewals_perform, renewed.renewals_eq] at ho
    obtain rfl := List.mem_singleton.mp ho
    rw [attempts_perform, renewed.attempts_eq_nil, serverCalls_perform, renewed.serverCalls_eq]
    exact ⟨⟨value, rfl⟩, rfl⟩
  | failed n token e other => cases ho
  | exhausted token e rejected => cases ho
  | unopened n token e f rejected loggedIn =>
    rw [renewals_perform, loggedIn.renewals_eq_nil] at ho
    cases ho
  | reopened n token e new rejected loggedIn performed ih =>
    rw [loggedIn.renewals_reopened] at ho
    obtain ⟨⟨value, hlast⟩, hserver⟩ := ih ho
    rw [loggedIn.attempts_reopened,
      serverCalls_perform, serverCalls_append, List.getLast?_cons, hlast, ← List.cons_append,
      List.getLast?_append, hserver]
    exact ⟨⟨value, rfl⟩, rfl⟩

/-- What is yielded is the value of an attempt. -/
theorem result_ok_iff (h : Performed n token log result) (value : α) :
    result = .ok value ↔ ∃ t, (t, .ok value) ∈ attempts log := by
  induction h with
  | succeeded n token v renewed =>
    rw [attempts_perform, renewed.attempts_eq_nil]
    constructor
    · intro hv
      obtain rfl := Except.ok.inj hv
      exact ⟨token, List.mem_singleton_self _⟩
    · rintro ⟨t, ht⟩
      exact (Prod.mk.inj (List.mem_singleton.mp ht)).2.symm
  | failed n token e other =>
    constructor
    · exact nofun
    · rintro ⟨t, ht⟩
      cases (Prod.mk.inj (List.mem_singleton.mp ht)).2
  | exhausted token e rejected =>
    constructor
    · exact nofun
    · rintro ⟨t, ht⟩
      cases (Prod.mk.inj (List.mem_singleton.mp ht)).2
  | unopened n token e f rejected loggedIn =>
    rw [attempts_perform, loggedIn.attempts_eq_nil]
    constructor
    · exact nofun
    · rintro ⟨t, ht⟩
      cases (Prod.mk.inj (List.mem_singleton.mp ht)).2
  | reopened n token e new rejected loggedIn performed ih =>
    rw [loggedIn.attempts_reopened, ih]
    constructor
    · rintro ⟨t, ht⟩
      exact ⟨t, List.mem_cons_of_mem _ ht⟩
    · rintro ⟨t, ht⟩
      rcases List.mem_cons.mp ht with ht | ht
      · cases (Prod.mk.inj ht).2
      · exact ⟨t, ht⟩

/-- A failure that is not about the session is the end of the log and the result. -/
theorem other_failure (h : Performed n token log result) {t : String} {e : Error}
    (he : (t, .error e) ∈ attempts log) (other : e.kind = .other) :
    log.getLast? = some ⟨.perform t, .error e⟩ ∧ result = .error (operationError e) := by
  induction h with
  | succeeded n token v renewed =>
    rw [attempts_perform, renewed.attempts_eq_nil] at he
    cases (Prod.mk.inj (List.mem_singleton.mp he)).2
  | failed n token f _ =>
    obtain ⟨rfl, hf⟩ := Prod.mk.inj (List.mem_singleton.mp he)
    obtain rfl := Except.error.inj hf
    exact ⟨rfl, rfl⟩
  | exhausted token f rejected =>
    obtain rfl := Except.error.inj (Prod.mk.inj (List.mem_singleton.mp he)).2
    exact absurd other rejected
  | unopened n token f _ rejected loggedIn =>
    rw [attempts_perform, loggedIn.attempts_eq_nil] at he
    obtain rfl := Except.error.inj (Prod.mk.inj (List.mem_singleton.mp he)).2
    exact absurd other rejected
  | reopened n token f new rejected loggedIn performed ih =>
    rw [loggedIn.attempts_reopened] at he
    rcases List.mem_cons.mp he with he | he
    · obtain rfl := Except.error.inj (Prod.mk.inj he).2
      exact absurd other rejected
    · obtain ⟨hlast, hresult⟩ := ih he
      rw [← List.cons_append, List.getLast?_append, hlast]
      exact ⟨rfl, hresult⟩

/-- A refused login is the result. -/
theorem refused_login (h : Performed n token log result) {e : Error}
    (he : .error e ∈ obtained log) : result = .error (loginError e) := by
  induction h with
  | succeeded n token v renewed =>
    rw [obtained_perform, renewed.obtained_eq_nil] at he
    cases he
  | failed n token f other => cases he
  | exhausted token f rejected => cases he
  | unopened n token f g rejected loggedIn =>
    obtain rfl := Except.error.inj (loggedIn.result_eq_of_refused he)
    rfl
  | reopened n token f new rejected loggedIn performed ih =>
    rw [obtained_perform, obtained_append, loggedIn.obtained_eq] at he
    rcases List.mem_cons.mp he with he | he
    · cases he
    · exact ih he

/-- The verdict of the session is given if all attempts were rejected because of it; no other
failure is that verdict or the server's own error. -/
theorem stillRejected_iff (h : Performed n token log result) (expected : ∀ x ∈ log, IsExpected x) :
    result = .error .stillRejected ↔
      (attempts log).length = n + 1 ∧
        ∃ t e, (attempts log).getLast? = some (t, .error e) ∧ e.kind ≠ .other := by
  induction h with
  | succeeded n token v renewed =>
    rw [attempts_perform, renewed.attempts_eq_nil]
    constructor
    · exact nofun
    · rintro ⟨_, t, e, he, _⟩
      cases (Prod.mk.inj (Option.some.inj he)).2
  | failed n token f other =>
    have hplain := isPlain_operationError (expected ⟨.perform token, .error f⟩ (by simp))
    constructor
    · intro hr
      exact absurd (Except.error.inj hr) hplain.2
    · rintro ⟨_, t, e, he, rejected⟩
      obtain rfl := Except.error.inj (Prod.mk.inj (Option.some.inj he)).2
      exact absurd other rejected
  | exhausted token f rejected =>
    constructor
    · intro _
      exact ⟨rfl, token, f, rfl, rejected⟩
    · intro _
      rfl
  | unopened n token f g rejected loggedIn =>
    have hplain := loggedIn.isPlain fun x hx => expected x (List.mem_cons_of_mem _ hx)
    rw [attempts_perform, loggedIn.attempts_eq_nil]
    constructor
    · intro hr
      exact absurd (Except.error.inj hr) hplain.2
    · rintro ⟨hlength, _⟩
      cases hlength
  | reopened n token f new rejected loggedIn performed ih =>
    obtain ⟨outcome, rest, hrest⟩ := performed.exists_attempts_eq
    -- one attempt more on both sides, and the last one stays the last
    rw [ih fun x hx => expected x (List.mem_cons_of_mem _ (List.mem_append_right _ hx)),
      loggedIn.attempts_reopened, hrest,
      List.getLast?_cons_cons, List.length_cons (a := (token, _)), Nat.succ_inj]

/-- The server's own error is never the result. -/
theorem result_ne_server (h : Performed n token log result) (expected : ∀ x ∈ log, IsExpected x)
    (url message : String) : result ≠ .error (.server url message) := by
  induction h with
  | succeeded n token v renewed => exact nofun
  | failed n token f other =>
    have hplain := isPlain_operationError (expected ⟨.perform token, .error f⟩ (by simp))
    exact fun hr => hplain.1 url message (Except.error.inj hr)
  | exhausted token f rejected => exact nofun
  | unopened n token f g rejected loggedIn =>
    have hplain := loggedIn.isPlain fun x hx => expected x (List.mem_cons_of_mem _ hx)
    exact fun hr => hplain.1 url message (Except.error.inj hr)
  | reopened n token f new rejected loggedIn performed ih =>
    exact ih fun x hx => expected x (List.mem_cons_of_mem _ (List.mem_append_right _ hx))

end Performed

/-! ### Whole calls -/

namespace Started

variable {log : Log α} {result : Except Error String}

theorem attempts_eq_nil (h : Started log result) : attempts log = [] := by
  cases h with
  | unreadable e => rfl
  | kept token => rfl
  | absent loggedIn => exact loggedIn.attempts_eq_nil

theorem renewals_eq_nil (h : Started log result) : renewals log = [] := by
  cases h with
  | unreadable e => rfl
  | kept token => rfl
  | absent loggedIn => exact loggedIn.renewals_eq_nil

theorem length_prompts_le (h : Started log result) : (prompts log).length ≤ 1 := by
  cases h with
  | unreadable e => exact Nat.zero_le 1
  | kept token => exact Nat.zero_le 1
  | absent loggedIn => exact loggedIn.length_prompts.le

theorem length_obtained_le (h : Started log result) : (obtained log).length ≤ 1 := by
  cases h with
  | unreadable e => exact Nat.zero_le 1
  | kept token => exact Nat.zero_le 1
  | absent loggedIn => exact loggedIn.length_obtained_le

/-- A login takes place only if no token is kept. -/
theorem head_eq_of_login (h : Started log result) (login : prompts log ≠ [] ∨ obtained log ≠ []) :
    log.head? = some ⟨.load, .ok none⟩ := by
  cases h with
  | unreadable e => exact login.elim (absurd rfl) (absurd rfl)
  | kept token => exact login.elim (absurd rfl) (absurd rfl)
  | absent loggedIn => rfl

theorem result_eq_of_refused (h : Started log result) {e : Error} (he : .error e ∈ obtained log) :
    result = .error (loginError e) := by
  cases h with
  | unreadable f => cases he
  | kept token => cases he
  | absent loggedIn => exact loggedIn.result_eq_of_refused he

theorem isPlain {e : Error} (h : Started log (.error e)) (expected : ∀ x ∈ log, IsExpected x) :
    e.IsPlain := by
  cases h with
  | unreadable f => exact ⟨fun _ _ => nofun, nofun⟩
  | absent loggedIn => exact loggedIn.isPlain fun x hx => expected x (List.mem_cons_of_mem _ hx)

end Started

section Split

variable {first rest : Log α} {token : String} {outcome : Except Error α}

theorem isNone_attempt? (h : attempts first = []) :
    ∀ e ∈ first, (attempt? e).isNone = true := by
  intro e he
  rw [List.filterMap_eq_nil_iff.mp h e he]
  rfl

/-- The part of a log before its first attempt. -/
theorem beforeAttempts_append_perform (h : attempts first = []) :
    beforeAttempts (first ++ ⟨.perform token, outcome⟩ :: rest) = first := by
  rw [beforeAttempts, List.takeWhile_append_of_pos (isNone_attempt? h),
    List.takeWhile_cons_of_neg Bool.false_ne_true, List.append_nil]

/-- The part of a log from its first attempt on. -/
theorem fromAttempts_append_perform (h : attempts first = []) :
    fromAttempts (first ++ ⟨.perform token, outcome⟩ :: rest) =
      ⟨.perform token, outcome⟩ :: rest := by
  rw [fromAttempts, List.dropWhile_append_of_pos (isNone_attempt? h),
    List.dropWhile_cons_of_neg Bool.false_ne_true]

theorem beforeAttempts_of_nil (h : attempts first = []) : beforeAttempts first = first :=
  List.takeWhile_eq_self_iff.mpr (isNone_attempt? h)

theorem fromAttempts_of_nil (h : attempts first = []) : fromAttempts first = [] :=
  List.dropWhile_eq_nil_iff.mpr (isNone_attempt? h)

end Split

/-- A call without an attempt is orderly. -/
theorem Started.orderly {log : Log α} {e : Error} (h : Started log (.error e))
    (expected : ∀ x ∈ log, IsExpected x) : Orderly log (.error e : Except Error α) := by
  have hnone := h.attempts_eq_nil
  have hplain := h.isPlain expected
  refine
    { length_attempts := by rw [hnone]; exact Nat.zero_le 2
      early_login := ?_
      early_login_cause := ?_
      late_login := ?_
      late_login_cause := ?_
      second_attempt := ?_
      length_renewals := by rw [h.renewals_eq_nil]; exact Nat.zero_le 1
      renewal := by rw [h.renewals_eq_nil]; exact nofun
      result_ok_iff := ?_
      stillRejected_iff := ?_
      other_failure := by rw [hnone]; exact nofun
      refused_login := ?_
      result_ne_server := fun url message hr => hplain.1 url message (Except.error.inj hr) }
  · rw [beforeAttempts_of_nil hnone]
    exact ⟨h.length_prompts_le, h.length_obtained_le⟩
  · rw [beforeAttempts_of_nil hnone]
    exact h.head_eq_of_login
  · rw [fromAttempts_of_nil hnone]
    exact ⟨Nat.zero_le 1, Nat.zero_le 1⟩
  · rw [fromAttempts_of_nil hnone]
    exact fun login => login.elim (absurd rfl) (absurd rfl)
  · rw [hnone]
    intro first second h
    cases h
  · rw [hnone]
    exact fun value => ⟨nofun, nofun⟩
  · rw [hnone]
    constructor
    · exact fun hr => absurd (Except.error.inj hr) hplain.2
    · rintro ⟨first, t, e, h, _⟩
      cases h
  · intro f hf
    rw [Except.error.inj (h.result_eq_of_refused hf)]

/-- A call with attempts is orderly. -/
theorem Performed.orderly {token : String} {first rest : Log α} {result : Except Error α}
    (h : Performed 1 token rest result) (hs : Started first (.ok token))
    (expected : ∀ x ∈ first ++ rest, IsExpected x) : Orderly (first ++ rest) result := by
  have hnone := hs.attempts_eq_nil
  have hattempts : attempts (first ++ rest) = attempts rest := by
    rw [attempts_append, hnone, List.nil_append]
  have hrenewals : renewals (first ++ rest) = renewals rest := by
    rw [renewals_append, hs.renewals_eq_nil, List.nil_append]
  have hbefore : beforeAttempts (first ++ rest) = first := by
    obtain ⟨outcome, tail, rfl⟩ := h.exists_eq_cons
    exact beforeAttempts_append_perform hnone
  have hfrom : fromAttempts (first ++ rest) = rest := by
    obtain ⟨outcome, tail, rfl⟩ := h.exists_eq_cons
    exact fromAttempts_append_perform hnone
  have hexpected : ∀ x ∈ rest, IsExpected x := fun x hx =>
    expected x (List.mem_append_right first hx)
  refine
    { length_attempts := by rw [hattempts]; exact h.length_attempts_le
      early_login := by rw [hbefore]; exact ⟨hs.length_prompts_le, hs.length_obtained_le⟩
      early_login_cause := ?_
      late_login := by rw [hfrom]; exact ⟨h.length_prompts_le, h.length_obtained_le⟩
      late_login_cause := ?_
      second_attempt := ?_
      length_renewals := by rw [hrenewals]; exact h.length_renewals_le
      renewal := ?_
      result_ok_iff := by rw [hattempts]; exact h.result_ok_iff
      stillRejected_iff := ?_
      other_failure := ?_
      refused_login := ?_
      result_ne_server := h.result_ne_server hexpected }
  · rw [hbefore]
    intro login
    rw [List.head?_append, hs.head_eq_of_login login, Option.some_or]
  · rw [hfrom, hattempts]
    exact fun login => ⟨token, h.rejected_of_login login⟩
  · rw [hattempts, hfrom]
    intro a b hab
    have htokens := h.tokens_prefix
    have hrejected := h.rejected_of_mem_dropLast
    rw [hab] at htokens hrejected
    -- one token is used and at most one is obtained, so the prefix is the whole
    refine ⟨?_, (htokens.eq_of_length_le h.length_obtained_le).symm⟩
    obtain ⟨e, ha, rejected⟩ := hrejected a (List.mem_singleton_self a)
    exact ⟨a.1, e, Prod.ext rfl ha, rejected⟩
  · rw [hrenewals, hattempts, serverCalls_append]
    intro old ho
    obtain ⟨hlast, hserver⟩ := h.renewal ho
    rw [List.getLast?_append, hserver]
    exact ⟨hlast, rfl⟩
  · rw [h.stillRejected_iff hexpected, hattempts]
    constructor
    · rintro ⟨hlength, t, e, hlast, rejected⟩
      obtain ⟨a, b, hab⟩ := List.length_eq_two.mp hlength
      rw [hab] at hlast
      obtain rfl := Option.some.inj hlast
      exact ⟨a, t, e, hab, rejected⟩
    · rintro ⟨a, t, e, hab, rejected⟩
      rw [hab]
      exact ⟨rfl, t, e, rfl, rejected⟩
  · rw [hattempts]
    intro t e he other
    obtain ⟨hlast, hresult⟩ := h.other_failure he other
    rw [List.getLast?_append, hlast]
    exact ⟨rfl, hresult⟩
  · rw [obtained_append]
    intro e he
    rcases List.mem_append.mp he with he | he
    · cases hs.result_eq_of_refused he
    · exact h.refused_login he

theorem Called.orderly {log : Log α} {result : Except Error α} (h : Called log result)
    (expected : ∀ x ∈ log, IsExpected x) : Orderly log result := by
  cases h with
  | unstarted e started => exact started.orderly expected
  | started started performed => exact performed.orderly started expected

/-- **Every call is orderly**, whatever its surroundings answer, each time anew. -/
theorem call_orderly {σ : Type} (world : σ → (q : Call) → q.Answer α × σ) (s : σ)
    (expected : ∀ x ∈ (call.run.runLogged world s).2.2, IsExpected x) :
    Orderly (call.run.runLogged world s).2.2 (call.run.runLogged world s).1 :=
  (branch_call_iff.mp (branch_runLogged world call.run s)).orderly expected

/-- Surroundings in which the kept token has expired. -/
def answerExpired : (q : Call) → q.Answer Nat
  | .load => .ok (some "old")
  | .save _ => .ok ()
  | .credentials => .ok ⟨"ann", "secret"⟩
  | .obtain _ => .ok "new"
  | .renew _ => .ok "newer"
  | .perform token =>
    if token = "new" then .ok 7 else .error (.server "http://server" "Signature has expired")

theorem isExpected_answerExpired (q : Call) : IsExpected ⟨q, answerExpired q⟩ := by
  cases q with
  | perform token =>
    by_cases h : token = "new" <;> simp [IsExpected, answerExpired, h, Error.IsOfExchange]
  | _ => exact trivial

/-- The second attempt succeeds where the kept token has expired, and the call is orderly. -/
theorem call_orderly_expired :
    (call.run.runLogged (fun s q => (answerExpired q, s)) ()).1 = .ok 7 ∧
      Orderly (call.run.runLogged (fun s q => (answerExpired q, s)) ()).2.2
        (call.run.runLogged (fun s q => (answerExpired q, s)) ()).1 :=
  ⟨by decide +kernel, call_orderly _ () (forall_mem_runLogged (fun _ => isExpected_answerExpired) _ _)⟩

end Session

end MeshControl.Account
