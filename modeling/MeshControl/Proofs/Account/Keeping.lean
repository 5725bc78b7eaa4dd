import MeshControl.Proofs.Account.History
import MeshControl.Proofs.Dialogue.Points

/-!
# The token at every point of a session

Whatever is done in a session and whatever fails, the kept token is the first one or the one that was
saved last, and no attempt is made with any other.

* `Keeper`: where a token is kept.  Reading and saving may fail at any time, and a saving that fails
  leaves what is kept as it is.
* `Use`: what a session can be used for, one thing after another (`useAll`).
* `TokenLaws`: the laws of the kept token at every point of a log.
* `token_lawful`: they hold of every run.

The laws hold of logs first, with the kept token followed along them by `keptAfter`: a token is saved
only right behind the exchange that issued it (`UsedInTurn.issuing`), and if what is read is the kept
token, what is used is the kept token (`UsedInTurn.spending`).  What a keeper holds is then the token
that is followed (`IsKeptIn.kept?_of_answered`), in all surroundings in which it keeps the token.
-/

namespace MeshControl.Account

open Dialogue

/-- Where a token is kept. -/
structure Keeper (τ : Type) where
  /-- What is kept. -/
  kept? : τ → Option String
  /-- The token that is read where a text is kept. -/
  read? : String → Option String
  load : τ → Except TokenError (Option String) × τ
  save : τ → String → Except TokenError Unit × τ
  /-- What is read is what is kept, unless reading fails. -/
  load_eq : ∀ {s token?}, (load s).1 = .ok token? → token? = (kept? s).bind read?
  kept?_load : ∀ s, kept? (load s).2 = kept? s
  /-- What was saved is kept, unless saving fails. -/
  kept?_save : ∀ {s token}, (save s token).1 = .ok () → kept? (save s token).2 = some token
  kept?_unsaved : ∀ {s token e}, (save s token).1 = .error e → kept? (save s token).2 = kept? s

namespace Keeper

variable {τ : Type}

/-- The token that reading yields, unless it fails. -/
def token? (keeper : Keeper τ) (s : τ) : Option String :=
  (keeper.kept? s).bind keeper.read?

end Keeper

namespace Session

variable {α τ ρ : Type}

/-! ### Using a session -/

/-- The surroundings of a session: a keeper, and all others, who answer as they like. -/
def keptWorld (keeper : Keeper τ) (others : ρ → (q : Call) → q.Answer α × ρ) (s : τ × ρ) :
    (q : Call) → q.Answer α × (τ × ρ)
  | .load => ((keeper.load s.1).1, (keeper.load s.1).2, s.2)
  | .save token => ((keeper.save s.1 token).1, (keeper.save s.1 token).2, s.2)
  | .credentials => ((others s.2 .credentials).1, s.1, (others s.2 .credentials).2)
  | .obtain who => ((others s.2 (.obtain who)).1, s.1, (others s.2 (.obtain who)).2)
  | .renew token => ((others s.2 (.renew token)).1, s.1, (others s.2 (.renew token)).2)
  | .perform token => ((others s.2 (.perform token)).1, s.1, (others s.2 (.perform token)).2)

/-- What a session is used for. -/
inductive Use where
  /-- Find a token. -/
  | token
  /-- Log a user in. -/
  | login (who : Credentials)
  /-- Log in whoever is asked. -/
  | interactiveLogin
  /-- Carry the operation out. -/
  | call

/-- Using a session once, whatever comes of it. -/
def Use.once : Use → Dialogue Call (Call.Answer α) Unit
  | token => Session.token.run.bind fun _ => .done ()
  | login who => (Session.login who).run.bind fun _ => .done ()
  | interactiveLogin => Session.interactiveLogin.run.bind fun _ => .done ()
  | call => Session.call.run.bind fun _ => .done ()

/-- Using a session time after time. -/
def useAll : List Use → Dialogue Call (Call.Answer α) Unit
  | [] => .done ()
  | use :: rest => use.once.bind fun _ => useAll rest

/-! ### The laws -/

/-- The token that an exchange has saved. -/
def saved? : Exchange Call (Call.Answer α) → Option String
  | ⟨.save token, .ok _⟩ => some token
  | _ => none

/-- The tokens that were saved. -/
def saved (log : Log α) : List String :=
  log.filterMap saved?

/-- A token has just been issued: to a user who logged in, or in the place of one with which the
operation has just succeeded. -/
def JustIssued (token : String) (before : Log α) : Prop :=
  (∃ who, [⟨.obtain who, .ok token⟩] <:+ before) ∨
    ∃ old value, [⟨.perform old, .ok value⟩, ⟨.renew old, .ok token⟩] <:+ before

/-- A token is saved only if it has just been issued, and renewed only if the operation has just
succeeded with it. -/
def Issuing (before : Log α) : Exchange Call (Call.Answer α) → Prop
  | ⟨.save token, _⟩ => JustIssued token before
  | ⟨.renew token, _⟩ => ∃ value, [⟨.perform token, .ok value⟩] <:+ before
  | _ => True

/-- Operations and renewals are asked for with this token alone. -/
def Spending (token? : Option String) : Exchange Call (Call.Answer α) → Prop
  | ⟨.perform token, _⟩ | ⟨.renew token, _⟩ => token? = some token
  | _ => True

/-- The laws of the kept token, with surroundings that were in the state `s` before the log. -/
structure TokenLaws (keeper : Keeper τ) (world : τ × ρ → (q : Call) → q.Answer α × (τ × ρ))
    (s : τ × ρ) (log : Log α) : Prop where
  /-- What is kept is what was saved last, or what was kept at first. -/
  kept : ∀ before after, log = before ++ after →
    keeper.kept? (stateAfter world s before).1 = (saved before).getLast?.or (keeper.kept? s.1)
  /-- It is never forgotten. -/
  lasting : ∀ before middle after, log = before ++ middle ++ after →
    (keeper.kept? (stateAfter world s before).1).isSome →
    (keeper.kept? (stateAfter world s (before ++ middle)).1).isSome
  /-- What is saved has just been issued, and a renewal comes right behind a success. -/
  issuing : Everywhere Issuing log
  /-- What is used is what reading would yield at that moment, if what was saved is read back. -/
  spending : (∀ token ∈ saved log, keeper.read? token = some token) →
    Everywhere (fun before => Spending (keeper.token? (stateAfter world s before).1)) log
  /-- Everything but a saving that succeeds leaves what is kept as it is: a refused login, an answer
  that the user declined, a failed operation, a failed renewal and a saving that failed. -/
  unchanged : Everywhere (fun before x => saved? x = none →
    keeper.kept? (stateAfter world s (before ++ [x])).1 =
      keeper.kept? (stateAfter world s before).1) log

/-! ### The kept token along a log -/

/-- What is kept behind a log. -/
def keptAfter (kept? : Option String) (log : Log α) : Option String :=
  log.foldl (fun kept? x => (saved? x).or kept?) kept?

/-- A law about what is kept holds at every point of a log. -/
def Along (p : Option String → Exchange Call (Call.Answer α) → Prop) (kept? : Option String)
    (log : Log α) : Prop :=
  Everywhere (fun before => p (keptAfter kept? before)) log

/-- What is read is this token, unless reading fails. -/
def Reading (token? : Option String) : Exchange Call (Call.Answer α) → Prop
  | ⟨.load, .ok answer⟩ => answer = token?
  | _ => True

section Along

variable {p : Option String → Exchange Call (Call.Answer α) → Prop} {kept? : Option String}
  {log first second : Log α} {x : Exchange Call (Call.Answer α)}

@[simp]
theorem keptAfter_nil : keptAfter kept? ([] : Log α) = kept? := rfl

@[simp]
theorem keptAfter_cons :
    keptAfter kept? (x :: log) = keptAfter ((saved? x).or kept?) log := rfl

@[simp]
theorem keptAfter_append :
    keptAfter kept? (first ++ second) = keptAfter (keptAfter kept? first) second :=
  List.foldl_append

/-- What is kept behind a log is what was saved last. -/
theorem keptAfter_eq : keptAfter kept? log = (saved log).getLast?.or kept? := by
  induction log generalizing kept? with
  | nil => rfl
  | cons x log ih =>
    rw [keptAfter_cons, ih, saved, saved]
    cases hx : saved? x with
    | none => simp [hx]
    | some token => simp [hx, List.getLast?_cons]

/-- What reads back all that was saved reads what is kept behind a log. -/
theorem keptAfter_bind {read? : String → Option String}
    (faithful : ∀ token ∈ saved log, read? token = some token) :
    (keptAfter kept? log).bind read? = keptAfter (kept?.bind read?) log := by
  rw [keptAfter_eq, keptAfter_eq]
  cases hlast : (saved log).getLast? with
  | none => rfl
  | some token =>
    have htoken := faithful token (List.mem_of_getLast? hlast)
    simpa using htoken

theorem isSome_keptAfter (h : kept?.isSome) : (keptAfter kept? log).isSome := by
  rw [keptAfter_eq, Option.isSome_or, h, Bool.or_true]

@[simp]
theorem along_nil : Along p kept? [] := everywhere_nil

@[simp]
theorem along_cons_iff :
    Along p kept? (x :: log) ↔ p kept? x ∧ Along p ((saved? x).or kept?) log := by
  simp [Along]

@[simp]
theorem along_append_iff :
    Along p kept? (first ++ second) ↔ Along p kept? first ∧ Along p (keptAfter kept? first) second := by
  simp [Along, everywhere_append_iff]

end Along

/-! ### Issuing -/

section Issuing

variable {token : String} {before first log : Log α} {x : Exchange Call (Call.Answer α)}

theorem JustIssued.prepend (h : JustIssued token before) : JustIssued token (first ++ before) := by
  have hsuffix : before <:+ first ++ before := List.suffix_append first before
  rcases h with ⟨who, hwho⟩ | ⟨old, value, hold⟩
  · exact .inl ⟨who, hwho.trans hsuffix⟩
  · exact .inr ⟨old, value, hold.trans hsuffix⟩

theorem Issuing.prepend (h : Issuing before x) : Issuing (first ++ before) x := by
  unfold Issuing at h ⊢
  split at h
  · exact h.prepend
  · obtain ⟨value, hvalue⟩ := h
    exact ⟨value, hvalue.trans (List.suffix_append first before)⟩
  · trivial

/-- Logs in which every token that is saved was issued may follow one another. -/
theorem issuing_append {second : Log α} (hfirst : Everywhere Issuing first)
    (hsecond : Everywhere Issuing second) : Everywhere Issuing (first ++ second) :=
  hfirst.append hsecond fun _ _ h => h.prepend

theorem issuing_cons (hx : Issuing [] x) (hlog : Everywhere Issuing log) :
    Everywhere Issuing (x :: log) := by
  have hfirst : Everywhere Issuing [x] := by simp [hx]
  exact issuing_append hfirst hlog

theorem Opened.issuing {who : Credentials} {result : Except Error String}
    (h : Opened who log result) : Everywhere Issuing log := by
  have hissued : ∀ token, JustIssued token [(⟨.obtain who, .ok token⟩ :
      Exchange Call (Call.Answer α))] := fun token => .inl ⟨who, List.suffix_refl _⟩
  cases h with
  | refused e => simp [Issuing]
  | unsaved token e => simp [Issuing, hissued]
  | saved token => simp [Issuing, hissued]

theorem LoggedIn.issuing {result : Except Error String} (h : LoggedIn log result) :
    Everywhere Issuing log := by
  cases h with
  | unnamed e => simp [Issuing]
  | named who opened => exact issuing_cons trivial opened.issuing

theorem Started.issuing {result : Except Error String} (h : Started log result) :
    Everywhere Issuing log := by
  cases h with
  | unreadable e => simp [Issuing]
  | kept token => simp [Issuing]
  | absent loggedIn => exact issuing_cons trivial loggedIn.issuing

/-- A renewal right behind a success. -/
theorem Renewed.issuing {value : α} (h : Renewed token log) :
    Everywhere Issuing (⟨.perform token, .ok value⟩ :: log) := by
  have hsucceeded : ∃ v, [⟨.perform token, .ok v⟩] <:+
      [(⟨.perform token, .ok value⟩ : Exchange Call (Call.Answer α))] := ⟨value, List.suffix_refl _⟩
  cases h with
  | failed e => simpa [Issuing] using hsucceeded
  | renewed new saved =>
    have hissued : JustIssued new
        [(⟨.perform token, .ok value⟩ : Exchange Call (Call.Answer α)), ⟨.renew token, .ok new⟩] :=
      .inr ⟨token, value, List.suffix_refl _⟩
    simpa [Issuing, hissued] using hsucceeded

theorem Performed.issuing {n : Nat} {result : Except Error α} (h : Performed n token log result) :
    Everywhere Issuing log := by
  induction h with
  | succeeded n token value renewed => exact renewed.issuing
  | failed n token e other => simp [Issuing]
  | exhausted token e rejected => simp [Issuing]
  | unopened n token e f rejected loggedIn => exact issuing_cons trivial loggedIn.issuing
  | reopened n token e new rejected loggedIn performed ih =>
    exact issuing_cons trivial (issuing_append loggedIn.issuing ih)

theorem Called.issuing {result : Except Error α} (h : Called log result) :
    Everywhere Issuing log := by
  cases h with
  | unstarted e started => exact started.issuing
  | started started performed => exact issuing_append started.issuing performed.issuing

end Issuing

/-! ### Spending -/

section Spending

variable {token : String} {token? : Option String} {log : Log α}

/-- Opening a session spends no token, and the one that it yields is kept. -/
theorem Opened.spending {who : Credentials} {result : Except Error String}
    (h : Opened who log result) :
    Along Spending token? log ∧ ∀ new, result = .ok new → keptAfter token? log = some new := by
  cases h with
  | refused e => simp [Spending]
  | unsaved new e => simp [Spending]
  | saved new => simp [Spending, saved?]

theorem LoggedIn.spending {result : Except Error String} (h : LoggedIn log result) :
    Along Spending token? log ∧ ∀ new, result = .ok new → keptAfter token? log = some new := by
  cases h with
  | unnamed e => simp [Spending]
  | named who opened => simpa [Spending, saved?] using opened.spending

/-- The token that is found is the kept one. -/
theorem Started.spending {result : Except Error String} (h : Started log result)
    (reading : Along Reading token? log) :
    Along Spending token? log ∧ ∀ new, result = .ok new → keptAfter token? log = some new := by
  cases h with
  | unreadable e => simp [Spending]
  | kept new =>
    have hkept : some new = token? := by simpa [Reading] using reading
    simp [Spending, saved?, hkept]
  | absent loggedIn => simpa [Spending, saved?] using loggedIn.spending

theorem Renewed.spending (h : Renewed token log) : Along Spending (some token) log := by
  cases h with
  | failed e => simp [Spending]
  | renewed new saved => simp [Spending, saved?]

/-- All attempts with the kept token are made with the one that is kept then: a login between two of
them has kept the token that the second is made with. -/
theorem Performed.spending {n : Nat} {result : Except Error α} (h : Performed n token log result) :
    Along Spending (some token) log := by
  induction h with
  | succeeded n token value renewed => simpa [Spending, saved?] using renewed.spending
  | failed n token e other => simp [Spending]
  | exhausted token e rejected => simp [Spending]
  | unopened n token e f rejected loggedIn => simpa [Spending, saved?] using loggedIn.spending.1
  | @reopened n token e new rejected first rest result loggedIn performed ih =>
    have hlogin : Along Spending (some token) first := loggedIn.spending.1
    have hkept : keptAfter (some token) first = some new := loggedIn.spending.2 new rfl
    simp [Spending, saved?, hlogin, hkept, ih]

theorem Called.spending {result : Except Error α} (h : Called log result)
    (reading : Along Reading token? log) : Along Spending token? log := by
  cases h with
  | unstarted e started => exact (started.spending reading).1
  | started started performed =>
    obtain ⟨hfirst, hkept⟩ := started.spending (along_append_iff.mp reading).1
    rw [along_append_iff, hkept _ rfl]
    exact ⟨hfirst, performed.spending⟩

end Spending

/-! ### One use after another -/

/-- What is asked when a session is used once. -/
inductive Used : Log α → Prop
  | token {log : Log α} {result : Except Error String} (started : Started log result) : Used log
  | login {who : Credentials} {log : Log α} {result : Except Error String}
      (opened : Opened who log result) : Used log
  | interactiveLogin {log : Log α} {result : Except Error String}
      (loggedIn : LoggedIn log result) : Used log
  | call {log : Log α} {result : Except Error α} (called : Called log result) : Used log

/-- What is asked when a session is used time after time. -/
inductive UsedInTurn : Log α → Prop
  | nil : UsedInTurn []
  | append {first rest : Log α} (used : Used first) (later : UsedInTurn rest) :
      UsedInTurn (first ++ rest)

theorem exists_branch_of_once {β : Type} {d : Dialogue Call (Call.Answer α) β} {log : Log α}
    (h : (d.bind fun _ => Dialogue.done ()).Branch log ()) : ∃ value, d.Branch log value := by
  obtain ⟨first, value, rest, hd, hdone, rfl⟩ := branch_bind_iff.mp h
  obtain ⟨rfl, _⟩ := branch_done_iff.mp hdone
  exact ⟨value, by rwa [List.append_nil]⟩

theorem used_of_branch {use : Use} {log : Log α} (h : use.once.Branch log ()) : Used log := by
  cases use with
  | token =>
    obtain ⟨result, h⟩ := exists_branch_of_once h
    exact .token (branch_token_iff.mp h)
  | login who =>
    obtain ⟨result, h⟩ := exists_branch_of_once h
    exact .login (branch_login_iff.mp h)
  | interactiveLogin =>
    obtain ⟨result, h⟩ := exists_branch_of_once h
    exact .interactiveLogin (branch_interactiveLogin_iff.mp h)
  | call =>
    obtain ⟨result, h⟩ := exists_branch_of_once h
    exact .call (branch_call_iff.mp h)

theorem usedInTurn_of_branch {uses : List Use} {log : Log α} (h : (useAll uses).Branch log ()) :
    UsedInTurn log := by
  induction uses generalizing log with
  | nil =>
    obtain ⟨rfl, _⟩ := branch_done_iff.mp h
    exact .nil
  | cons use rest ih =>
    obtain ⟨first, _, tail, hfirst, htail, rfl⟩ := branch_bind_iff.mp h
    exact .append (used_of_branch hfirst) (ih htail)

section InTurn

variable {log : Log α} {token? : Option String}

theorem Used.issuing (h : Used log) : Everywhere Issuing log := by
  cases h with
  | token started => exact started.issuing
  | login opened => exact opened.issuing
  | interactiveLogin loggedIn => exact loggedIn.issuing
  | call called => exact called.issuing

theorem Used.spending (h : Used log) (reading : Along Reading token? log) :
    Along Spending token? log := by
  cases h with
  | token started => exact (started.spending reading).1
  | login opened => exact opened.spending.1
  | interactiveLogin loggedIn => exact loggedIn.spending.1
  | call called => exact called.spending reading

/-- Every token that is saved has just been issued. -/
theorem UsedInTurn.issuing (h : UsedInTurn log) : Everywhere Issuing log := by
  induction h with
  | nil => exact everywhere_nil
  | append used later ih => exact issuing_append used.issuing ih

/-- If what is read is the kept token, what is used is the kept token. -/
theorem UsedInTurn.spending (h : UsedInTurn log) (reading : Along Reading token? log) :
    Along Spending token? log := by
  induction h generalizing token? with
  | nil => exact along_nil
  | append used later ih =>
    obtain ⟨hfirst, hrest⟩ := along_append_iff.mp reading
    exact along_append_iff.mpr ⟨used.spending hfirst, ih hrest⟩

end InTurn

/-! ### What is kept along a run -/

/-- Surroundings in which a keeper keeps the token: what is kept is changed only by saving, and what is
read is what is kept. -/
structure IsKeptIn (keeper : Keeper τ) (world : τ × ρ → (q : Call) → q.Answer α × (τ × ρ)) :
    Prop where
  kept?_eq : ∀ s q, keeper.kept? (world s q).2.1 =
    (saved? ⟨q, (world s q).1⟩).or (keeper.kept? s.1)
  load_eq : ∀ {s token?}, (world s .load).1 = .ok token? → token? = keeper.token? s.1

/-- A keeper keeps the token whatever all others answer. -/
theorem isKeptIn_keptWorld (keeper : Keeper τ) (others : ρ → (q : Call) → q.Answer α × ρ) :
    IsKeptIn keeper (keptWorld keeper others) where
  kept?_eq s q := by
    cases q with
    | load => exact keeper.kept?_load s.1
    | save token =>
      rw [keptWorld]
      cases hsaved : (keeper.save s.1 token).1 with
      | error e => exact keeper.kept?_unsaved hsaved
      | ok => exact keeper.kept?_save hsaved
    | credentials => rfl
    | obtain who => rfl
    | renew token => rfl
    | perform token => rfl
  load_eq := keeper.load_eq

theorem mem_saved_append {before after : Log α} {token : String} (h : token ∈ saved before) :
    token ∈ saved (before ++ after) := by
  rw [saved, List.filterMap_append]
  exact List.mem_append_left _ h

section World

variable {keeper : Keeper τ} {world : τ × ρ → (q : Call) → q.Answer α × (τ × ρ)} {s u : τ × ρ}
  {log : Log α}

/-- What the keeper holds behind a log is the token that is followed along it. -/
theorem IsKeptIn.kept?_of_answered (h : IsKeptIn keeper world) (answered : Answered world s log u) :
    keeper.kept? u.1 = keptAfter (keeper.kept? s.1) log := by
  induction log generalizing s with
  | nil => exact congrArg (fun v => keeper.kept? v.1) answered.symm
  | cons x log ih =>
    obtain ⟨t, hx, hrest⟩ := answered
    have hstep := h.kept?_eq s x.question
    rw [hx] at hstep
    rw [ih hrest, hstep, keptAfter_cons]

theorem IsKeptIn.token?_of_answered (h : IsKeptIn keeper world) (answered : Answered world s log u)
    (faithful : ∀ token ∈ saved log, keeper.read? token = some token) :
    keeper.token? u.1 = keptAfter (keeper.token? s.1) log := by
  rw [Keeper.token?, h.kept?_of_answered answered, keptAfter_bind faithful]
  rfl

/-- What is read is what is kept, if what was saved is read back. -/
theorem IsKeptIn.reading (h : IsKeptIn keeper world) (answered : Answered world s log u)
    (faithful : ∀ token ∈ saved log, keeper.read? token = some token) :
    Along Reading (keeper.token? s.1) log := by
  rintro before x after rfl
  have htoken := h.token?_of_answered answered.before fun token ht =>
    faithful token (mem_saved_append ht)
  have hanswer := answered.answer_eq
  rw [← htoken]
  unfold Reading
  split
  · exact h.load_eq hanswer
  · trivial

/-- The laws of the kept token hold of whatever a session is used for, in all surroundings in which a
keeper keeps the token. -/
theorem IsKeptIn.tokenLaws (h : IsKeptIn keeper world) (used : UsedInTurn log)
    (answered : Answered world s log u) : TokenLaws keeper world s log := by
  refine
    { kept := ?_
      lasting := ?_
      issuing := used.issuing
      spending := ?_
      unchanged := ?_ }
  · rintro before after rfl
    rw [h.kept?_of_answered answered.before, keptAfter_eq]
  · rintro before middle after rfl hsome
    rw [h.kept?_of_answered answered.before, keptAfter_append,
      ← h.kept?_of_answered answered.before.before]
    exact isSome_keptAfter hsome
  · rintro faithful before x after rfl
    rw [h.token?_of_answered answered.before fun token ht => faithful token (mem_saved_append ht)]
    exact used.spending (h.reading answered faithful) before x after rfl
  · rintro before x after rfl hx
    rw [List.append_cons] at answered
    rw [h.kept?_of_answered answered.before, keptAfter_append,
      h.kept?_of_answered answered.before.before]
    simp [hx]

theorem usedInTurn_runLogged (uses : List Use) (world : τ → (q : Call) → q.Answer α × τ) (s : τ) :
    UsedInTurn ((useAll uses).runLogged world s).2.2 :=
  usedInTurn_of_branch (branch_runLogged world (useAll uses) s)

end World

/-- **The laws of the kept token hold at every point** of whatever a session is used for, whichever
answers are given and whichever savings fail. -/
theorem token_lawful (keeper : Keeper τ) (others : ρ → (q : Call) → q.Answer α × ρ) (s : τ × ρ)
    (uses : List Use) :
    TokenLaws keeper (keptWorld keeper others) s
      ((useAll uses).runLogged (keptWorld keeper others) s).2.2 :=
  (isKeptIn_keptWorld keeper others).tokenLaws (usedInTurn_runLogged uses _ s)
    (answered_runLogged (keptWorld keeper others) (useAll uses) s)

end Session

end MeshControl.Account
