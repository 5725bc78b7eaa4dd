import MeshControl.Proofs.Daemon.Retry

/-!
# What a call sends

The log of a call has one of three forms (`Logged`), one for each way in which its moves can go.
From them follow the bounds on requests: at most two are sent, and at most one is not refused,
because a second one is sent only behind a first one that was.  A call whose secret
cannot be had ends there (`Logged.unsigned`).
-/

namespace MeshControl.Daemon.Client

open Dialogue MeshControl.Http MeshControl.Json

variable {α : Type}

/-- What was asked in a call, with the answers. -/
abbrev Log := List (Exchange Call Call.Answer)

/-- An exchange of an attempt as one of a call. -/
def ofLink (x : Exchange Link.Call Link.Call.Answer) : Exchange Call Call.Answer :=
  ⟨.link x.question, x.answer⟩

/-- Whether an exchange belongs to an attempt and is of a kind there. -/
def inAttempt (p : Exchange Link.Call Link.Call.Answer → Bool) : Exchange Call Call.Answer → Bool
  | ⟨.link question, answer⟩ => p ⟨question, answer⟩
  | ⟨.recover, _⟩ => false

/-- Whether an exchange is an attempt to bring the daemon back up. -/
def isRecovery : Exchange Call Call.Answer → Bool
  | ⟨.link _, _⟩ => false
  | ⟨.recover, _⟩ => true

theorem countP_inAttempt_map (p : Exchange Link.Call Link.Call.Answer → Bool) (inner : Link.Log) :
    (inner.map ofLink).countP (inAttempt p) = inner.countP p := by
  rw [List.countP_map]
  rfl

theorem countP_isRecovery_map (inner : Link.Log) : (inner.map ofLink).countP isRecovery = 0 := by
  rw [List.countP_map]
  exact List.countP_eq_zero.mpr fun _ _ => Bool.false_ne_true

/-- A branch of an attempt within a call is one of the attempt alone. -/
theorem branch_onLink_iff {d : Link.Asking α} {log : Log} {result : α} :
    (onLink d).Branch log result ↔ ∃ inner, d.Branch inner result ∧ log = inner.map ofLink := by
  rw [onLink, branch_answerWith_iff]
  constructor
  · rintro ⟨inner, hd, hspelled⟩
    refine ⟨inner, hd, ?_⟩
    clear hd
    induction hspelled with
    | nil => rfl
    | cons head _ ih =>
      obtain rfl := branch_query_iff.mp head
      rw [ih]
      rfl
  · rintro ⟨inner, hd, rfl⟩
    refine ⟨inner, hd, ?_⟩
    clear hd
    induction inner with
    | nil => exact .nil
    | cons x inner ih =>
      show Spelled _ _ ([ofLink x] ++ inner.map ofLink)
      exact .cons (branch_query_iff.mpr rfl) ih

/-- The forms of the log of a call. -/
inductive Logged (attempt : Link.Asking (Except Error α)) : Log → Except Error α → Prop
  | once {inner : Link.Log} {result : Except Error α} (only : attempt.Branch inner result) :
      Logged attempt (inner.map ofLink) result
  | abandoned {inner : Link.Log} {url : String}
      (only : attempt.Branch inner (.error (.refused url))) (cause : Error) :
      Logged attempt (inner.map ofLink ++ [⟨.recover, .error cause⟩]) (.error cause)
  | again {first second : Link.Log} {url : String} {result : Except Error α}
      (refused : attempt.Branch first (.error (.refused url)))
      (last : attempt.Branch second result) :
      Logged attempt (first.map ofLink ++ ⟨.recover, .ok ()⟩ :: second.map ofLink) result

theorem Taken.logged {attempt : Link.Asking (Except Error α)} {mayRetry canRecover : Bool}
    {moves : Moves α} {log : Log} {result : Except Error α}
    (h : Taken mayRetry canRecover moves result) (hspelled : Spelled (play attempt) moves log) :
    Logged attempt log result := by
  cases h with
  | once result final =>
    obtain _ | ⟨head, _ | _⟩ := hspelled
    obtain ⟨inner, hinner, rfl⟩ := branch_onLink_iff.mp head
    rw [List.append_nil]
    exact .once hinner
  | abandoned url cause may can =>
    obtain _ | ⟨head, _ | ⟨hrecover, _ | _⟩⟩ := hspelled
    obtain ⟨inner, hinner, rfl⟩ := branch_onLink_iff.mp head
    obtain rfl := branch_query_iff.mp hrecover
    exact .abandoned hinner cause
  | again url result may can =>
    obtain _ | ⟨head, _ | ⟨hrecover, _ | ⟨hlast, _ | _⟩⟩⟩ := hspelled
    obtain ⟨first, hfirst, rfl⟩ := branch_onLink_iff.mp head
    obtain ⟨second, hsecond, rfl⟩ := branch_onLink_iff.mp hlast
    obtain rfl := branch_query_iff.mp hrecover
    rw [List.append_nil]
    exact .again hfirst hsecond

/-- The log of an errand has one of these forms. -/
theorem logged_of_branch {e : Errand} {decode? : Node → Option α} {default : α} {c : Client}
    {mayRetry : Bool} {log : Log} {result : Except Error α}
    (h : (e.run c decode? default mayRetry).Branch log result) :
    Logged (e.once decode? default c.base) log result := by
  rw [Errand.run_eq_call, call_eq_answerWith, branch_answerWith_iff] at h
  obtain ⟨moves, hcourse, hspelled⟩ := h
  exact (taken_of_branch hcourse).logged hspelled

/-- An item that a list lacks stands only at the end once it is put there. -/
theorem eq_of_append_cons {β : Type} {x : β} {l earlier rest : List β} (hx : x ∉ l)
    (h : l ++ [x] = earlier ++ x :: rest) : rest = [] ∧ earlier = l := by
  rcases List.eq_nil_or_concat rest with rfl | ⟨others, last, rfl⟩
  · exact ⟨rfl, (List.append_inj' h rfl).1.symm⟩
  · -- otherwise the last item is another one, and the first `x` would lie within `l`
    rw [List.concat_eq_append, ← List.cons_append, ← List.append_assoc] at h
    have hl : l = earlier ++ x :: others := (List.append_inj' h rfl).1
    exact absurd (hl ▸ List.mem_append_right earlier List.mem_cons_self) hx

namespace Logged

variable {e : Errand} {decode? : Node → Option α} {default : α} {base : BaseUrl} {log : Log}
  {result : Except Error α}

theorem countP_isSend_le (h : Logged (e.once decode? default base) log result) :
    log.countP (inAttempt Link.isSend) ≤ 2 := by
  cases h with
  | once only =>
    rw [countP_inAttempt_map]
    exact Nat.le_succ_of_le (Link.branch_once_iff.mp only).countP_isSend_le
  | abandoned only cause =>
    rw [List.countP_append, countP_inAttempt_map]
    exact Nat.le_succ_of_le (Link.branch_once_iff.mp only).countP_isSend_le
  | again refused last =>
    have hfirst := (Link.branch_once_iff.mp refused).countP_isSend_le
    have hsecond := (Link.branch_once_iff.mp last).countP_isSend_le
    rw [List.countP_append, List.countP_cons_of_neg Bool.false_ne_true, countP_inAttempt_map,
      countP_inAttempt_map]
    omega

/-- **All requests but one are refused**: the one before the last was. -/
theorem countP_isUnrefused_le (h : Logged (e.once decode? default base) log result) :
    log.countP (inAttempt Link.isUnrefused) ≤ 1 := by
  cases h with
  | @once inner _ only =>
    have hsend := (Link.branch_once_iff.mp only).countP_isSend_le
    rw [countP_inAttempt_map]
    exact Nat.le_trans (Link.countP_isUnrefused_le inner) hsend
  | abandoned only cause =>
    have hnone := (Link.branch_once_iff.mp only).countP_isUnrefused_eq_zero rfl
    rw [List.countP_append, countP_inAttempt_map, hnone]
    exact Nat.zero_le 1
  | @again first second _ _ refused last =>
    -- the first request was refused, so only the second one can have been let through
    have hnone := (Link.branch_once_iff.mp refused).countP_isUnrefused_eq_zero rfl
    have hsend := (Link.branch_once_iff.mp last).countP_isSend_le
    have hunrefused := Link.countP_isUnrefused_le second
    rw [List.countP_append, List.countP_cons_of_neg Bool.false_ne_true, countP_inAttempt_map,
      countP_inAttempt_map, hnone]
    omega

theorem countP_isRecovery_le (h : Logged (e.once decode? default base) log result) :
    log.countP isRecovery ≤ 1 := by
  cases h with
  | once only =>
    rw [countP_isRecovery_map]
    exact Nat.zero_le 1
  | abandoned only cause =>
    rw [List.countP_append, countP_isRecovery_map]
    exact Nat.le_refl 1
  | @again first second _ _ refused last =>
    have hfirst := countP_isRecovery_map first
    have hsecond := countP_isRecovery_map second
    rw [List.countP_append, List.countP_cons_of_pos rfl]
    omega

theorem mem_map_ofLink {inner : Link.Log} {question : Link.Call} {answer : question.Answer}
    (h : ⟨.link question, answer⟩ ∈ inner.map ofLink) : ⟨question, answer⟩ ∈ inner := by
  obtain ⟨⟨q, a⟩, hmem, heq⟩ := List.mem_map.mp h
  cases heq
  exact hmem

/-- Every exchange of an attempt within a call is one of a branch of the attempt. -/
theorem exists_branch (h : Logged (e.once decode? default base) log result) {question : Link.Call}
    {answer : question.Answer} (hmem : ⟨.link question, answer⟩ ∈ log) :
    ∃ inner outcome, (e.once decode? default base).Branch inner outcome ∧
      ⟨question, answer⟩ ∈ inner := by
  cases h with
  | once only => exact ⟨_, _, only, mem_map_ofLink hmem⟩
  | abandoned only cause =>
    rcases List.mem_append.mp hmem with hmem | hmem
    · exact ⟨_, _, only, mem_map_ofLink hmem⟩
    · cases List.mem_singleton.mp hmem
  | again refused last =>
    rcases List.mem_append.mp hmem with hmem | hmem
    · exact ⟨_, _, refused, mem_map_ofLink hmem⟩
    · rcases List.mem_cons.mp hmem with heq | hmem
      · cases heq
      · exact ⟨_, _, last, mem_map_ofLink hmem⟩

/-- A call that sends nothing is a single attempt, because a refused one has sent its request. -/
theorem exists_unsent (h : Logged (e.once decode? default base) log result)
    (hnone : ∀ request answer, ⟨.link (.send request), answer⟩ ∉ log) :
    ∃ inner, (e.once decode? default base).Branch inner result ∧
      ∀ request answer, ⟨.send request, answer⟩ ∉ inner := by
  have hrefused : ∀ {inner : Link.Log} {url : String} {later : Log},
      (e.once decode? default base).Branch inner (.error (.refused url)) →
      log ≠ inner.map ofLink ++ later := by
    rintro inner url later hinner rfl
    obtain ⟨request, hmem⟩ := (Link.branch_once_iff.mp hinner).wasRefused_iff.mp rfl
    exact hnone request _ (List.mem_append_left later (List.mem_map_of_mem hmem))
  cases h with
  | @once inner _ only =>
    exact ⟨inner, only, fun request answer hmem => hnone request answer (List.mem_map_of_mem hmem)⟩
  | abandoned only cause => exact absurd rfl (hrefused only)
  | again refused last => exact absurd rfl (hrefused refused)

/-- A call succeeds only if it was answered. -/
theorem exists_answer (h : Logged (e.once decode? default base) log result) {value : α}
    (hvalue : result = .ok value) : ∃ request answer, ⟨.link (.send request), .ok answer⟩ ∈ log := by
  have hattempt : ∀ {inner : Link.Log}, (e.once decode? default base).Branch inner result →
      ∃ request answer, ⟨.link (.send request), .ok answer⟩ ∈ inner.map ofLink := by
    intro inner hinner
    obtain ⟨request, answer, hmem⟩ := (Link.branch_once_iff.mp hinner).exists_answer hvalue
    exact ⟨request, answer, List.mem_map_of_mem hmem⟩
  cases h with
  | once only => exact hattempt only
  | abandoned only cause => cases hvalue
  | again refused last =>
    obtain ⟨request, answer, hmem⟩ := hattempt last
    exact ⟨request, answer, List.mem_append_right _ (List.mem_cons_of_mem _ hmem)⟩

/-- A refused attempt has its secret, or needs none. -/
theorem secret_notMem {inner : Link.Log} {url : String} {cause : SecretError}
    (h : (e.once decode? default base).Branch inner (.error (.refused url))) :
    (⟨.link .secret, .error cause⟩ : Exchange Call Call.Answer) ∉ inner.map ofLink := by
  intro hmem
  obtain ⟨_, heq⟩ := (Link.branch_once_iff.mp h).eq_of_unsigned (mem_map_ofLink hmem)
  cases heq

/-- **A call without a secret ends**, with the attempt that could not be made. -/
theorem unsigned (h : Logged (e.once decode? default base) log result) {earlier rest : Log}
    {cause : SecretError} (hlog : log = earlier ++ ⟨.link .secret, .error cause⟩ :: rest) :
    rest = [] ∧ result = .error (.secret cause) ∧
      (earlier = [] ∨ earlier.getLast? = some ⟨.recover, .ok ()⟩) := by
  have hmem : ⟨.link .secret, .error cause⟩ ∈ log :=
    hlog ▸ List.mem_append_right _ List.mem_cons_self
  cases h with
  | once only =>
    obtain ⟨rfl, rfl⟩ := (Link.branch_once_iff.mp only).eq_of_unsigned (mem_map_ofLink hmem)
    obtain ⟨rfl, rfl⟩ := eq_of_append_cons List.not_mem_nil hlog
    exact ⟨rfl, rfl, .inl rfl⟩
  | abandoned only other =>
    rcases List.mem_append.mp hmem with hmem | hmem
    · exact absurd hmem (secret_notMem only)
    · cases List.mem_singleton.mp hmem
  | @again first second url _ refused last =>
    -- the first attempt had its secret, otherwise it would not have been refused
    have hsecond : ⟨.link .secret, .error cause⟩ ∈ second.map ofLink := by
      rcases List.mem_append.mp hmem with hmem | hmem
      · exact absurd hmem (secret_notMem refused)
      · rcases List.mem_cons.mp hmem with heq | hmem
        · cases heq
        · exact hmem
    obtain ⟨rfl, rfl⟩ := (Link.branch_once_iff.mp last).eq_of_unsigned (mem_map_ofLink hsecond)
    have hnot : (⟨.link .secret, .error cause⟩ : Exchange Call Call.Answer) ∉
        first.map ofLink ++ [⟨.recover, .ok ()⟩] := by
      intro hmem
      rcases List.mem_append.mp hmem with hmem | hmem
      · exact secret_notMem refused hmem
      · cases List.mem_singleton.mp hmem
    rw [← List.singleton_append, ← List.append_assoc] at hlog
    obtain ⟨rfl, rfl⟩ := eq_of_append_cons hnot hlog
    exact ⟨rfl, rfl, .inr List.getLast?_concat⟩

end Logged

/-- The laws of a call on its log and its result. -/
structure RetriedOnce (e : Errand) (decode? : Node → Option α) (default : α) (c : Client)
    (mayRetry : Bool) (log : Log) (result : Except Error α) : Prop where
  /-- The log spells out moves that keep the laws of moves. -/
  moves : ∃ moves, Spelled (play (e.once decode? default c.base)) moves log ∧
    OneRetry mayRetry c.canRecover moves result
  /-- At most two requests are sent. -/
  sends_le : log.countP (inAttempt Link.isSend) ≤ 2
  /-- **At most one of them is not refused.** -/
  unrefused_le : log.countP (inAttempt Link.isUnrefused) ≤ 1
  /-- The daemon is brought back up at most once. -/
  recoveries_le : log.countP isRecovery ≤ 1
  /-- Each attempt sends at most one request, and is refused if and only if that request is. -/
  attempt : ∀ inner outcome, (e.once decode? default c.base).Branch inner outcome →
    inner.countP Link.isSend ≤ 1 ∧
      (wasRefused outcome = true ↔ ∃ request, ⟨.send request, .error .refused⟩ ∈ inner)
  /-- All requests have the method of the errand. -/
  method_eq : ∀ request answer, ⟨.link (.send request), answer⟩ ∈ log → request.method = e.method
  /-- An attempt without a secret is the end: it sends nothing, and nothing comes after it. It is
  the first attempt, or the daemon was brought back up right before. -/
  unsigned : ∀ earlier cause rest, log = earlier ++ ⟨.link .secret, .error cause⟩ :: rest →
    rest = [] ∧ result = .error (.secret cause) ∧
      (earlier = [] ∨ earlier.getLast? = some ⟨.recover, .ok ()⟩)

theorem retriedOnce_of_branch {e : Errand} {decode? : Node → Option α} {default : α} {c : Client}
    {mayRetry : Bool} {log : Log} {result : Except Error α}
    (h : (e.run c decode? default mayRetry).Branch log result) :
    RetriedOnce e decode? default c mayRetry log result := by
  rw [Errand.run_eq_call, call_eq_answerWith, branch_answerWith_iff] at h
  obtain ⟨moves, hcourse, hspelled⟩ := h
  have htaken := taken_of_branch hcourse
  have hlogged := htaken.logged hspelled
  refine
    { moves := ⟨moves, hspelled, htaken.oneRetry⟩
      sends_le := hlogged.countP_isSend_le
      unrefused_le := hlogged.countP_isUnrefused_le
      recoveries_le := hlogged.countP_isRecovery_le
      attempt := ?_
      method_eq := ?_
      unsigned := fun earlier cause rest hlog => hlogged.unsigned hlog }
  · intro inner outcome hinner
    have hattempted := Link.branch_once_iff.mp hinner
    exact ⟨hattempted.countP_isSend_le, hattempted.wasRefused_iff⟩
  · intro request answer hmem
    obtain ⟨inner, outcome, hinner, hsend⟩ := hlogged.exists_branch hmem
    exact (Link.branch_once_iff.mp hinner).method_eq hsend

end MeshControl.Daemon.Client
