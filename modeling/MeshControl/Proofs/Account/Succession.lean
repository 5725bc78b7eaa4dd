import Mathlib.Algebra.Notation.Prod
import MeshControl.Proofs.Account.Attempts
import MeshControl.Proofs.Account.TokenFile
import MeshControl.Proofs.Dialogue.Answered

/-!
# Calls one after another

Calls share nothing but the kept token.  A server that accepts no token but the one it issued last
makes every mistake with it fatal: a call that kept the token it had before the renewal would have the
next one log in again.  With such a server (`StrictServer`), and a store that gives back what was
saved (`Store`, in memory or in a file), the kept token is the accepted one after every call, so at
most the first one logs in (`turns_steady`).

The invariant is `IsCurrent`.  A login establishes it (`LoggedIn.isCurrent`), and so does the renewal
of an accepted token (`Renewed.isCurrent`), which is the last thing that a call does.
-/

namespace MeshControl.Account

open Dialogue

/-! ### Where tokens are kept and who issues them -/

/-- Where a token is kept: clean tokens are read back as they were saved. -/
structure Store (τ : Type) where
  load : τ → Except TokenError (Option String) × τ
  save : τ → String → Except TokenError Unit × τ
  load_of_save : ∀ {s u token}, IsClean token → save s token = (.ok (), u) →
    (load u).1 = .ok (some token)

namespace Store

/-- A token in memory. -/
def memory : Store (Option String) where
  load token? := (.ok token?, token?)
  save _ token := (.ok (), some token)
  load_of_save _ h := by rw [← (Prod.mk.inj h).2]

/-- A token in a file. -/
def file (path : String) : Store Files.Tree where
  load t := (TokenFile.load path).run Files.Tree.answer t
  save t token := (TokenFile.save path token).run Files.Tree.answer t
  load_of_save clean h := by rw [TokenFile.run_load_of_save clean h]

end Store

/-- A server that accepts no token but the one it issued last, and the users who log in to it.
Whether a token was issued before does not matter. -/
structure StrictServer (ρ α : Type) where
  /-- The only token that is accepted, if there is one. -/
  accepted? : ρ → Option String
  credentials : ρ → Credentials × ρ
  obtain : ρ → Credentials → Except Error String × ρ
  renew : ρ → String → Except Error String × ρ
  perform : ρ → String → Except Error α × ρ
  /-- Whoever logs in is given a token. -/
  issues : ∀ r who, ∃ token r', obtain r who = (.ok token, r') ∧ IsClean token ∧
    accepted? r' = some token
  /-- The accepted token is renewed. -/
  renews : ∀ r token, accepted? r = some token → ∃ new r', renew r token = (.ok new, r') ∧
    IsClean new ∧ accepted? r' = some new
  /-- Operations succeed with the accepted token, which stays the accepted one. -/
  performs : ∀ r token, accepted? r = some token → ∃ value r',
    perform r token = (.ok value, r') ∧ accepted? r' = some token
  /-- Any other token has expired or is invalid. -/
  rejects : ∀ r token, accepted? r ≠ some token → ∃ e r', perform r token = (.error e, r') ∧
    e.kind ≠ .other

namespace Session

variable {τ ρ α : Type}

/-- The surroundings of a session with a store and a strict server. -/
def strictWorld (store : Store τ) (server : StrictServer ρ α) (s : τ × ρ) :
    (q : Call) → q.Answer α × (τ × ρ)
  | .load => ((store.load s.1).1, (store.load s.1).2, s.2)
  | .save token => ((store.save s.1 token).1, (store.save s.1 token).2, s.2)
  | .credentials => (.ok (server.credentials s.2).1, s.1, (server.credentials s.2).2)
  | .obtain who => ((server.obtain s.2 who).1, s.1, (server.obtain s.2 who).2)
  | .renew token => ((server.renew s.2 token).1, s.1, (server.renew s.2 token).2)
  | .perform token => ((server.perform s.2 token).1, s.1, (server.perform s.2 token).2)

/-- A call that took place. -/
structure Turn (α σ : Type) where
  log : Log α
  result : Except Error α
  /-- The state of the surroundings after it. -/
  after : σ

/-- One call. -/
def turn {σ : Type} (world : σ → (q : Call) → q.Answer α × σ) (s : σ) : Turn α σ :=
  let (result, after, log) := call.run.runLogged world s
  ⟨log, result, after⟩

/-- Calls one after another. -/
def turns {σ : Type} (world : σ → (q : Call) → q.Answer α × σ) : Nat → σ → List (Turn α σ)
  | 0, _ => []
  | n + 1, s => turn world s :: turns world n (turn world s).after

/-- Whether an exchange is none in which the store failed. -/
def isKept : Exchange Call (Call.Answer α) → Bool
  | ⟨.load, answer⟩ | ⟨.save _, answer⟩ => answer.isOk
  | _ => true

/-- The kept token is the accepted one. -/
def IsCurrent (store : Store τ) (server : StrictServer ρ α) (s : τ × ρ) : Prop :=
  ∃ token, (store.load s.1).1 = .ok (some token) ∧ server.accepted? s.2 = some token

/-- The numbers of times that a user was asked who logs in and that a token was asked for. -/
def logins (log : Log α) : Nat × Nat :=
  ((prompts log).length, (obtained log).length)

/-- A first call and `n` more, with as few logins as possible. -/
structure Steady (store : Store τ) (server : StrictServer ρ α) (n : Nat) (s : τ × ρ)
    (turns : List (Turn α (τ × ρ))) : Prop where
  /-- All calls succeed. -/
  succeeds : ∀ t ∈ turns, ∃ value, t.result = .ok value
  /-- After each of them the kept token is the accepted one. -/
  isCurrent : ∀ t ∈ turns, IsCurrent store server t.after
  /-- Nobody logs in if the kept token was the accepted one before. -/
  logins_of_isCurrent : IsCurrent store server s →
    turns.map (fun t => logins t.log) = List.replicate (n + 1) (0, 0)
  /-- If it was not, there is one login, in the first call. -/
  logins_of_not_isCurrent : ¬ IsCurrent store server s →
    turns.map (fun t => logins t.log) = (1, 1) :: List.replicate n (0, 0)

/-! ### The parts of a call -/

section Parts

variable {store : Store τ} {server : StrictServer ρ α} {s u : τ × ρ} {log : Log α} {token : String}

theorem logins_append (first second : Log α) :
    logins (first ++ second) = logins first + logins second := by
  rw [logins, prompts_append, obtained_append, List.length_append, List.length_append]
  rfl

theorem logins_perform (outcome : Except Error α) :
    logins (⟨.perform token, outcome⟩ :: log) = logins log := rfl

theorem logins_load (kept : Except TokenError (Option String)) :
    logins (⟨.load, kept⟩ :: log) = logins log := rfl

theorem LoggedIn.logins_eq {new : String} (h : LoggedIn log (.ok new)) : logins log = (1, 1) := by
  rw [logins, h.length_prompts, h.obtained_eq]
  rfl

theorem Renewed.logins_eq (h : Renewed token log) : logins log = (0, 0) := by
  rw [logins, h.prompts_eq_nil, h.obtained_eq_nil]
  rfl

/-- A token that was issued and saved is the current one. -/
theorem isCurrent_of_save (clean : IsClean token) (accepted : server.accepted? s.2 = some token)
    (h : strictWorld store server s (.save token) = (.ok (), u)) :
    server.accepted? u.2 = some token ∧ IsCurrent store server u := by
  have hs : store.save s.1 token = (.ok (), u.1) := by
    rw [← (Prod.mk.inj h).1, ← (Prod.mk.inj h).2]
  have hu : server.accepted? u.2 = some token := by
    rw [← (Prod.mk.inj h).2, accepted]
  exact ⟨hu, token, store.load_of_save clean hs, hu⟩

/-- A login succeeds, and its token is the current one. -/
theorem LoggedIn.isCurrent {result : Except Error String} (h : LoggedIn log result)
    (answered : Answered (strictWorld store server) s log u) (kept : ∀ x ∈ log, isKept x = true) :
    ∃ token, result = .ok token ∧ server.accepted? u.2 = some token ∧ IsCurrent store server u := by
  cases h with
  | unnamed e =>
    obtain ⟨_, hnamed, _⟩ := answered
    cases (Prod.mk.inj hnamed).1
  | named who opened =>
    obtain ⟨v, _, answered⟩ := answered
    obtain ⟨new, r, hissued, clean, accepted⟩ := server.issues v.2 who
    cases opened with
    | refused e =>
      obtain ⟨_, hrefused, _⟩ := answered
      rw [strictWorld, hissued] at hrefused
      cases hrefused
    | unsaved token e => cases kept ⟨.save token, .error e⟩ (by simp)
    | saved token =>
      obtain ⟨w, hobtained, _, hsaved, rfl⟩ := answered
      rw [strictWorld, hissued] at hobtained
      cases hobtained
      exact ⟨new, rfl, isCurrent_of_save clean accepted hsaved⟩

/-- Renewing the accepted token makes the new one the current one. -/
theorem Renewed.isCurrent (h : Renewed token log) (accepted : server.accepted? s.2 = some token)
    (answered : Answered (strictWorld store server) s log u) (kept : ∀ x ∈ log, isKept x = true) :
    IsCurrent store server u := by
  obtain ⟨new, r, hnew, clean, accepted⟩ := server.renews s.2 token accepted
  cases h with
  | failed e =>
    obtain ⟨_, hfailed, _⟩ := answered
    rw [strictWorld, hnew] at hfailed
    cases hfailed
  | renewed new saved =>
    obtain ⟨w, hrenewed, _, hsaved, rfl⟩ := answered
    rw [strictWorld, hnew] at hrenewed
    cases hrenewed
    obtain e | _ := saved
    · cases kept ⟨.save new, .error e⟩ (by simp)
    · exact (isCurrent_of_save clean accepted hsaved).2

/-- With the accepted token, an operation succeeds at the first attempt. -/
theorem Performed.of_accepted {n : Nat} {result : Except Error α} (h : Performed n token log result)
    (accepted : server.accepted? s.2 = some token)
    (answered : Answered (strictWorld store server) s log u) (kept : ∀ x ∈ log, isKept x = true) :
    (∃ value, result = .ok value) ∧ IsCurrent store server u ∧ logins log = (0, 0) := by
  obtain ⟨value, r, hvalue, accepted⟩ := server.performs s.2 token accepted
  obtain ⟨outcome, rest, rfl⟩ := h.exists_eq_cons
  obtain ⟨v, hattempt, answered⟩ := answered
  rw [strictWorld, hvalue] at hattempt
  cases hattempt
  cases h with
  | succeeded _ _ _ renewed =>
    have hu := renewed.isCurrent accepted answered fun x hx => kept x (List.mem_cons_of_mem _ hx)
    exact ⟨⟨value, rfl⟩, hu, renewed.logins_eq⟩

/-- With any other token, an operation succeeds at the second attempt. -/
theorem Performed.of_rejected {n : Nat} {result : Except Error α}
    (h : Performed (n + 1) token log result) (rejected : server.accepted? s.2 ≠ some token)
    (answered : Answered (strictWorld store server) s log u) (kept : ∀ x ∈ log, isKept x = true) :
    (∃ value, result = .ok value) ∧ IsCurrent store server u ∧ logins log = (1, 1) := by
  obtain ⟨e, r, he, hkind⟩ := server.rejects s.2 token rejected
  obtain ⟨outcome, rest, rfl⟩ := h.exists_eq_cons
  obtain ⟨v, hattempt, answered⟩ := answered
  rw [strictWorld, he] at hattempt
  cases hattempt
  cases h with
  | failed _ _ _ other => exact absurd other hkind
  | unopened _ _ _ f _ loggedIn =>
    obtain ⟨new, hnew, _⟩ :=
      loggedIn.isCurrent answered fun x hx => kept x (List.mem_cons_of_mem _ hx)
    cases hnew
  | reopened _ _ _ new _ loggedIn performed =>
    obtain ⟨w, hlogin, hagain⟩ := answered_append_iff.mp answered
    obtain ⟨_, hnew, accepted, _⟩ := loggedIn.isCurrent hlogin fun x hx =>
      kept x (List.mem_cons_of_mem _ (List.mem_append_left _ hx))
    cases hnew
    obtain ⟨hresult, hu, hlogins⟩ := performed.of_accepted accepted hagain fun x hx =>
      kept x (List.mem_cons_of_mem _ (List.mem_append_right _ hx))
    refine ⟨hresult, hu, ?_⟩
    rw [logins_perform, logins_append, hlogins, loggedIn.logins_eq]
    rfl

/-- A call succeeds, the kept token is the accepted one after it, and there was a login if it was
not the accepted one before. -/
theorem Called.steady {result : Except Error α} (h : Called log result)
    (answered : Answered (strictWorld store server) s log u) (kept : ∀ x ∈ log, isKept x = true) :
    (∃ value, result = .ok value) ∧ IsCurrent store server u ∧
      (IsCurrent store server s → logins log = (0, 0)) ∧
      (¬ IsCurrent store server s → logins log = (1, 1)) := by
  cases h with
  | unstarted e started =>
    cases started with
    | unreadable cause => cases kept ⟨.load, .error cause⟩ (by simp)
    | absent loggedIn =>
      obtain ⟨_, _, answered⟩ := answered
      obtain ⟨_, hnew, _⟩ :=
        loggedIn.isCurrent answered fun x hx => kept x (List.mem_cons_of_mem _ hx)
      cases hnew
  | @started token first rest _ started performed =>
    obtain ⟨v, hfirst, hrest⟩ := answered_append_iff.mp answered
    have keptRest : ∀ x ∈ rest, isKept x = true := fun x hx => kept x (List.mem_append_right _ hx)
    cases started with
    | kept =>
      obtain ⟨w, hload, rfl⟩ := hfirst
      have hkept := (Prod.mk.inj hload).1
      have hr : s.2 = w.2 := by rw [← (Prod.mk.inj hload).2]
      by_cases accepted : server.accepted? w.2 = some token
      · obtain ⟨hresult, hu, hlogins⟩ := performed.of_accepted accepted hrest keptRest
        exact ⟨hresult, hu, fun _ => hlogins, fun h => absurd ⟨token, hkept, hr ▸ accepted⟩ h⟩
      · obtain ⟨hresult, hu, hlogins⟩ := performed.of_rejected accepted hrest keptRest
        refine ⟨hresult, hu, ?_, fun _ => hlogins⟩
        rintro ⟨other, hother, haccepted⟩
        obtain rfl := Option.some.inj (Except.ok.inj (hkept.symm.trans hother))
        exact absurd (hr ▸ haccepted) accepted
    | @absent log _ loggedIn =>
      obtain ⟨w, hload, hlogin⟩ := hfirst
      obtain ⟨_, hnew, accepted, _⟩ := loggedIn.isCurrent hlogin fun x hx =>
        kept x (List.mem_append_left _ (List.mem_cons_of_mem _ hx))
      cases hnew
      obtain ⟨hresult, hu, hlogins⟩ := performed.of_accepted accepted hrest keptRest
      refine ⟨hresult, hu, ?_, fun _ => ?_⟩
      · rintro ⟨other, hother, _⟩
        cases (Prod.mk.inj hload).1.symm.trans hother
      · rw [List.cons_append, logins_load, logins_append, hlogins, loggedIn.logins_eq]
        rfl

end Parts

/-! ### Calls one after another -/

theorem turn_steady (store : Store τ) (server : StrictServer ρ α) (s : τ × ρ)
    (kept : ∀ x ∈ (turn (strictWorld store server) s).log, isKept x = true) :
    (∃ value, (turn (strictWorld store server) s).result = .ok value) ∧
      IsCurrent store server (turn (strictWorld store server) s).after ∧
      (IsCurrent store server s → logins (turn (strictWorld store server) s).log = (0, 0)) ∧
      (¬ IsCurrent store server s → logins (turn (strictWorld store server) s).log = (1, 1)) :=
  (branch_call_iff.mp (branch_runLogged (strictWorld store server) call.run s)).steady
    (answered_runLogged (strictWorld store server) call.run s) kept

/-- Calls that begin with the accepted token do without a login. -/
theorem turns_of_isCurrent (store : Store τ) (server : StrictServer ρ α) (n : Nat) (s : τ × ρ)
    (current : IsCurrent store server s)
    (kept : ∀ t ∈ turns (strictWorld store server) n s, ∀ x ∈ t.log, isKept x = true) :
    ∀ t ∈ turns (strictWorld store server) n s, (∃ value, t.result = .ok value) ∧
      IsCurrent store server t.after ∧ logins t.log = (0, 0) := by
  induction n generalizing s with
  | zero => exact nofun
  | succ n ih =>
    obtain ⟨hresult, hafter, hlogins, _⟩ := turn_steady store server s (kept _ List.mem_cons_self)
    refine List.forall_mem_cons.mpr ⟨⟨hresult, hafter, hlogins current⟩, ?_⟩
    exact ih _ hafter fun t ht => kept t (List.mem_cons_of_mem _ ht)

theorem length_turns {σ : Type} (world : σ → (q : Call) → q.Answer α × σ) (n : Nat) (s : σ) :
    (turns world n s).length = n := by
  induction n generalizing s with
  | zero => rfl
  | succ n ih => rw [turns, List.length_cons, ih]

/-- **Calls one after another do with as few logins as possible**, with any store that gives back
what was saved as long as it does not fail. -/
theorem turns_steady (store : Store τ) (server : StrictServer ρ α) (n : Nat) (s : τ × ρ)
    (kept : ∀ t ∈ turns (strictWorld store server) (n + 1) s, ∀ x ∈ t.log, isKept x = true) :
    Steady store server n s (turns (strictWorld store server) (n + 1) s) := by
  obtain ⟨hresult, hafter, hcurrent, hother⟩ :=
    turn_steady store server s (kept _ List.mem_cons_self)
  -- the first call leaves the accepted token behind, so the others do without a login
  have hrest := turns_of_isCurrent store server n _ hafter fun t ht =>
    kept t (List.mem_cons_of_mem _ ht)
  have hlogins : (turns (strictWorld store server) n (turn (strictWorld store server) s).after).map
      (fun t => logins t.log) = List.replicate n (0, 0) := by
    refine List.eq_replicate_iff.mpr ⟨by rw [List.length_map, length_turns], ?_⟩
    exact List.forall_mem_map.mpr fun t ht => (hrest t ht).2.2
  refine
    { succeeds := List.forall_mem_cons.mpr ⟨hresult, fun t ht => (hrest t ht).1⟩
      isCurrent := List.forall_mem_cons.mpr ⟨hafter, fun t ht => (hrest t ht).2.1⟩
      logins_of_isCurrent := fun h => ?_
      logins_of_not_isCurrent := fun h => ?_ }
  · rw [turns, List.map_cons, hcurrent h, hlogins, List.replicate_succ]
  · rw [turns, List.map_cons, hother h, hlogins]

/-! ### A server with numbered tokens -/

/-- The token of a number. -/
def numberedToken (n : Nat) : String :=
  String.ofList (List.replicate (n + 1) 'x')

theorem isClean_numberedToken (n : Nat) : IsClean (numberedToken n) := by
  have hdrop : (List.replicate (n + 1) 'x').dropWhile Text.isBlank =
      List.replicate (n + 1) 'x' := by
    rw [List.replicate_succ, List.dropWhile_cons_of_neg (by decide)]
  have htrim : Text.trim (List.replicate (n + 1) 'x') = List.replicate (n + 1) 'x' := by
    rw [Text.trim, Text.trimStart, hdrop, Text.trimEnd, List.reverse_replicate, hdrop,
      List.reverse_replicate]
  have htrimmed : Text.trimmed (numberedToken n) = numberedToken n := by
    rw [Text.trimmed, numberedToken, String.toList_ofList, htrim]
  refine ⟨?_, htrimmed⟩
  rw [htrimmed]
  intro h
  have hnil : List.replicate (n + 1) 'x' = [] := String.ofList_eq_empty_iff.mp h
  exact List.cons_ne_nil _ _ hnil

/-- A server that numbers its tokens from one; operations yield the number of their token. -/
def numberingServer : StrictServer Nat Nat where
  accepted? count := if count = 0 then none else some (numberedToken count)
  credentials count := (⟨"ann", "secret"⟩, count)
  obtain count _ := (.ok (numberedToken (count + 1)), count + 1)
  renew count _ := (.ok (numberedToken (count + 1)), count + 1)
  perform count token :=
    (if count ≠ 0 ∧ token = numberedToken count then .ok count
      else .error (.server "http://server" "Signature has expired"), count)
  issues count _ := ⟨_, _, rfl, isClean_numberedToken (count + 1), rfl⟩
  renews count _ _ := ⟨_, _, rfl, isClean_numberedToken (count + 1), rfl⟩
  performs count token accepted := by
    split at accepted
    · cases accepted
    · next hcount =>
      cases accepted
      exact ⟨count, count, by rw [if_pos ⟨hcount, rfl⟩], if_neg hcount⟩
  rejects count token rejected := by
    have hother : ¬ (count ≠ 0 ∧ token = numberedToken count) := by
      rintro ⟨hcount, rfl⟩
      exact rejected (if_neg hcount)
    exact ⟨_, count, by rw [if_neg hother], by decide⟩

/-- A tree in which a token is kept that was never issued. -/
def staleTree : Files.Tree :=
  { entries := [(["t"], .file [115, 116, 97, 108, 101, 10] Files.Tree.ownerMode)] }

/-- Two calls with a stale token in a file, of which the first logs in. -/
theorem turns_steady_stale :
    (∀ t ∈ turns (strictWorld (Store.file "/t") numberingServer) 2 (staleTree, 0),
      ∀ x ∈ t.log, isKept x = true) ∧
    Steady (Store.file "/t") numberingServer 1 (staleTree, 0)
      (turns (strictWorld (Store.file "/t") numberingServer) 2 (staleTree, 0)) := by
  have hall : ((turns (strictWorld (Store.file "/t") numberingServer) 2 (staleTree, 0)).all
      fun t => t.log.all isKept) = true := by
    decide +kernel
  have kept : ∀ t ∈ turns (strictWorld (Store.file "/t") numberingServer) 2 (staleTree, 0),
      ∀ x ∈ t.log, isKept x = true :=
    fun t ht => List.all_eq_true.mp (List.all_eq_true.mp hall t ht)
  exact ⟨kept, turns_steady (Store.file "/t") numberingServer 1 (staleTree, 0) kept⟩

end Session

end MeshControl.Account
