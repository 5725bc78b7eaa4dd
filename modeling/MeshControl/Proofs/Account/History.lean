import MeshControl.Account.Session
import MeshControl.Proofs.Dialogue.Branch

/-!
# Histories of sessions

What a session asks, told for each of its parts by an inductive predicate on logs: opening a session
(`Opened`, `LoggedIn`), finding a token (`Started`), renewing (`Renewed`), carrying an operation out
with so many logins left (`Performed`) and a whole call (`Called`).  Each predicate holds of exactly
the branches of its dialogue (`branch_login_iff` and its likes), so a law about sessions is proved
by the cases of these predicates and never by opening a dialogue.
-/

namespace MeshControl.Account.Session

open Dialogue

variable {α : Type}

/-- What was asked in a session, with the answers. -/
abbrev Log (α : Type) := List (Exchange Call (Call.Answer α))

/-! ### Logging in -/

/-- Opening a session for a user. -/
inductive Opened (who : Credentials) : Log α → Except Error String → Prop
  | refused (e : Error) : Opened who [⟨.obtain who, .error e⟩] (.error (loginError e))
  | unsaved (token : String) (e : TokenError) :
      Opened who [⟨.obtain who, .ok token⟩, ⟨.save token, .error e⟩] (.error (.token e))
  | saved (token : String) :
      Opened who [⟨.obtain who, .ok token⟩, ⟨.save token, .ok ()⟩] (.ok token)

/-- Opening a session for whoever is asked. -/
inductive LoggedIn : Log α → Except Error String → Prop
  | unnamed (e : Error) : LoggedIn [⟨.credentials, .error e⟩] (.error e)
  | named (who : Credentials) {log : Log α} {result : Except Error String}
      (opened : Opened who log result) : LoggedIn (⟨.credentials, .ok who⟩ :: log) result

theorem branch_login_iff {who : Credentials} {log : Log α} {result : Except Error String} :
    (login who : Asking α String).run.Branch log result ↔ Opened who log result := by
  constructor
  · intro h
    cases h with
    | ask answer rest =>
      cases answer with
      | error e =>
        cases rest with
        | done => exact .refused e
      | ok token =>
        cases rest with
        | ask answer rest =>
          cases answer with
          | error e =>
            cases rest with
            | done => exact .unsaved token e
          | ok =>
            cases rest with
            | done => exact .saved token
  · rintro (e | ⟨token, e⟩ | token)
    · exact .ask _ (.done _)
    · exact .ask _ (.ask _ (.done _))
    · exact .ask _ (.ask _ (.done _))

theorem branch_interactiveLogin_iff {log : Log α} {result : Except Error String} :
    (interactiveLogin : Asking α String).run.Branch log result ↔ LoggedIn log result := by
  constructor
  · intro h
    cases h with
    | ask answer rest =>
      cases answer with
      | error e =>
        cases rest with
        | done => exact .unnamed e
      | ok who => exact .named who (branch_login_iff.mp rest)
  · rintro (e | ⟨who, opened⟩)
    · exact .ask _ (.done _)
    · exact .ask _ (branch_login_iff.mpr opened)

/-- Finding a token: the kept one, or that of a session opened for it. -/
inductive Started : Log α → Except Error String → Prop
  | unreadable (e : TokenError) : Started [⟨.load, .error e⟩] (.error (.token e))
  | kept (token : String) : Started [⟨.load, .ok (some token)⟩] (.ok token)
  | absent {log : Log α} {result : Except Error String} (loggedIn : LoggedIn log result) :
      Started (⟨.load, .ok none⟩ :: log) result

theorem branch_token_iff {log : Log α} {result : Except Error String} :
    (token : Asking α String).run.Branch log result ↔ Started log result := by
  constructor
  · intro h
    cases h with
    | ask answer rest =>
      rcases answer with e | _ | token
      · cases rest with
        | done => exact .unreadable e
      · exact .absent (branch_interactiveLogin_iff.mp rest)
      · cases rest with
        | done => exact .kept token
  · rintro (e | token | loggedIn)
    · exact .ask _ (.done _)
    · exact .ask _ (.done _)
    · exact .ask _ (branch_interactiveLogin_iff.mpr loggedIn)

/-! ### Carrying an operation out -/

/-- Renewing a session, whether or not it succeeds. -/
inductive Renewed (token : String) : Log α → Prop
  | failed (e : Error) : Renewed token [⟨.renew token, .error e⟩]
  | renewed (new : String) (saved : Except TokenError Unit) :
      Renewed token [⟨.renew token, .ok new⟩, ⟨.save new, saved⟩]

theorem branch_renew_iff {token : String} {log : Log α} :
    (renew token : Dialogue Call (Call.Answer α) Unit).Branch log () ↔ Renewed token log := by
  constructor
  · intro h
    cases h with
    | ask answer rest =>
      cases answer with
      | error e =>
        cases rest with
        | done => exact .failed e
      | ok new =>
        cases rest with
        | ask answer rest =>
          cases rest with
          | done => exact .renewed new answer
  · rintro (e | ⟨new, saved⟩)
    · exact .ask _ (.done _)
    · exact .ask _ (.ask _ (.done _))

/-- Carrying the operation out with a token and so many logins left. -/
inductive Performed : Nat → String → Log α → Except Error α → Prop
  | succeeded (n : Nat) (token : String) (value : α) {log : Log α} (renewed : Renewed token log) :
      Performed n token (⟨.perform token, .ok value⟩ :: log) (.ok value)
  | failed (n : Nat) (token : String) (e : Error) (other : e.kind = .other) :
      Performed n token [⟨.perform token, .error e⟩] (.error (operationError e))
  | exhausted (token : String) (e : Error) (rejected : e.kind ≠ .other) :
      Performed 0 token [⟨.perform token, .error e⟩] (.error .stillRejected)
  | unopened (n : Nat) (token : String) (e f : Error) (rejected : e.kind ≠ .other) {log : Log α}
      (loggedIn : LoggedIn log (.error f)) :
      Performed (n + 1) token (⟨.perform token, .error e⟩ :: log) (.error f)
  | reopened (n : Nat) (token : String) (e : Error) (new : String) (rejected : e.kind ≠ .other)
      {first rest : Log α} {result : Except Error α} (loggedIn : LoggedIn first (.ok new))
      (performed : Performed n new rest result) :
      Performed (n + 1) token (⟨.perform token, .error e⟩ :: (first ++ rest)) result

/-- Renewing comes last and cannot spoil the value. -/
theorem branch_renew_then_iff {token : String} {value : α} {log : Log α} {result : Except Error α} :
    ((renew token).bind fun _ => done (.ok value) :
        Dialogue Call (Call.Answer α) _).Branch log result ↔
      Renewed token log ∧ result = .ok value := by
  rw [branch_bind_iff]
  constructor
  · rintro ⟨first, _, rest, hr, hd, rfl⟩
    obtain ⟨rfl, rfl⟩ := branch_done_iff.mp hd
    rw [List.append_nil]
    exact ⟨branch_renew_iff.mp hr, rfl⟩
  · rintro ⟨hr, rfl⟩
    exact ⟨log, (), [], branch_renew_iff.mpr hr, .done _, (List.append_nil log).symm⟩

/-- What is asked behind a rejected attempt with so many logins left. -/
def afterRejection : Nat → Dialogue Call (Call.Answer α) (Except Error α)
  | 0 => done (.error .stillRejected)
  | n + 1 => ExceptT.run do perform (← interactiveLogin) n

/-- What is asked behind an attempt, according to its outcome. -/
def afterAttempt (token : String) (n : Nat) :
    Except Error α → Dialogue Call (Call.Answer α) (Except Error α)
  | .ok value => (renew token).bind fun _ => done (.ok value)
  | .error e => if e.kind = .other then done (.error (operationError e)) else afterRejection n

/-- One attempt, and what follows according to its outcome. -/
theorem branch_attempt_iff {token : String} {n : Nat} {log : Log α} {result : Except Error α} :
    (perform token n : Asking α α).run.Branch log result ↔
      (∃ value rest, log = ⟨.perform token, .ok value⟩ :: rest ∧ Renewed token rest ∧
        result = .ok value) ∨
      (∃ e, log = [⟨.perform token, .error e⟩] ∧ e.kind = .other ∧
        result = .error (operationError e)) ∨
      ∃ e rest, log = ⟨.perform token, .error e⟩ :: rest ∧ e.kind ≠ .other ∧
        (afterRejection n).Branch rest result := by
  -- the logins left matter only behind a rejection
  have hperform : (perform token n : Asking α α).run =
      .ask (.perform token) (afterAttempt token n) := by
    rw [perform.eq_def]
    refine congrArg (Dialogue.ask (Call.perform token)) (funext fun answer => ?_)
    rcases answer with e | value
    · cases n <;> rfl
    · rfl
  rw [hperform, branch_ask_iff]
  constructor
  · rintro ⟨e | value, rest, rfl, h⟩
    · by_cases other : e.kind = .other
      · simp only [afterAttempt, other, if_true] at h
        obtain ⟨rfl, rfl⟩ := branch_done_iff.mp h
        exact .inr (.inl ⟨e, rfl, other, rfl⟩)
      · simp only [afterAttempt, other, if_false] at h
        exact .inr (.inr ⟨e, rest, rfl, other, h⟩)
    · obtain ⟨renewed, rfl⟩ := branch_renew_then_iff.mp h
      exact .inl ⟨value, rest, rfl, renewed, rfl⟩
  · rintro (⟨value, rest, rfl, renewed, rfl⟩ | ⟨e, rfl, other, rfl⟩ | ⟨e, rest, rfl, rejected, h⟩)
    · exact ⟨.ok value, rest, rfl, branch_renew_then_iff.mpr ⟨renewed, rfl⟩⟩
    · refine ⟨.error e, [], rfl, ?_⟩
      simp only [afterAttempt, other, if_true]
      exact .done _
    · refine ⟨.error e, rest, rfl, ?_⟩
      simp only [afterAttempt, rejected, if_false]
      exact h

theorem branch_perform_iff {token : String} {n : Nat} {log : Log α} {result : Except Error α} :
    (perform token n : Asking α α).run.Branch log result ↔ Performed n token log result := by
  constructor
  · intro h
    induction n generalizing token log with
    | zero =>
      obtain ⟨value, rest, rfl, renewed, rfl⟩ | ⟨e, rfl, other, rfl⟩ |
        ⟨e, rest, rfl, rejected, hrest⟩ := branch_attempt_iff.mp h
      · exact .succeeded 0 token value renewed
      · exact .failed 0 token e other
      · obtain ⟨rfl, rfl⟩ := branch_done_iff.mp hrest
        exact .exhausted token e rejected
    | succ n ih =>
      obtain ⟨value, rest, rfl, renewed, rfl⟩ | ⟨e, rfl, other, rfl⟩ |
        ⟨e, rest, rfl, rejected, hrest⟩ := branch_attempt_iff.mp h
      · exact .succeeded (n + 1) token value renewed
      · exact .failed (n + 1) token e other
      · obtain ⟨f, hlogin, rfl⟩ | ⟨first, new, tail, hlogin, hperform, rfl⟩ :=
          branch_run_bind_iff.mp hrest
        · exact .unopened n token e f rejected (branch_interactiveLogin_iff.mp hlogin)
        · have loggedIn := branch_interactiveLogin_iff.mp hlogin
          exact .reopened n token e new rejected loggedIn (ih hperform)
  · intro h
    induction h with
    | succeeded n token value renewed =>
      exact branch_attempt_iff.mpr (.inl ⟨value, _, rfl, renewed, rfl⟩)
    | failed n token e other => exact branch_attempt_iff.mpr (.inr (.inl ⟨e, rfl, other, rfl⟩))
    | exhausted token e rejected =>
      exact branch_attempt_iff.mpr (.inr (.inr ⟨e, [], rfl, rejected, .done _⟩))
    | unopened n token e f rejected loggedIn =>
      refine branch_attempt_iff.mpr (.inr (.inr ⟨e, _, rfl, rejected, ?_⟩))
      exact branch_run_bind_iff.mpr (.inl ⟨f, branch_interactiveLogin_iff.mpr loggedIn, rfl⟩)
    | reopened n token e new rejected loggedIn performed ih =>
      refine branch_attempt_iff.mpr (.inr (.inr ⟨e, _, rfl, rejected, ?_⟩))
      exact branch_run_bind_iff.mpr
        (.inr ⟨_, new, _, branch_interactiveLogin_iff.mpr loggedIn, ih, rfl⟩)

/-- A whole call: a token is found, and the operation is carried out with at most one login. -/
inductive Called : Log α → Except Error α → Prop
  | unstarted (e : Error) {log : Log α} (started : Started log (.error e)) : Called log (.error e)
  | started {token : String} {first rest : Log α} {result : Except Error α}
      (started : Started first (.ok token)) (performed : Performed 1 token rest result) :
      Called (first ++ rest) result

theorem branch_call_iff {log : Log α} {result : Except Error α} :
    (call : Asking α α).run.Branch log result ↔ Called log result := by
  rw [call, branch_run_bind_iff]
  constructor
  · rintro (⟨e, hs, rfl⟩ | ⟨first, token, rest, hs, hp, rfl⟩)
    · exact .unstarted e (branch_token_iff.mp hs)
    · exact .started (branch_token_iff.mp hs) (branch_perform_iff.mp hp)
  · rintro (⟨e, hs⟩ | ⟨hs, hp⟩)
    · exact .inl ⟨e, branch_token_iff.mpr hs, rfl⟩
    · exact .inr ⟨_, _, _, branch_token_iff.mpr hs, branch_perform_iff.mpr hp, rfl⟩

end MeshControl.Account.Session
