import MeshControl.Proofs.Daemon.Attempt

/-!
# One more attempt

A call is a course of moves (`call_eq_answerWith`): attempts and, between two of them, bringing the
daemon back up.  There are three ways in which it can go (`Taken`), and each of them keeps the laws
of `OneRetry`: what is tried again, when, and what comes of it.

Below the moves are the requests.  Since only a refused attempt is followed by another one, at most one
request of a call is not refused (`RetriedOnce.unrefused_le`).
-/

namespace MeshControl.Daemon.Client

open Dialogue MeshControl.Http MeshControl.Json

variable {α : Type}

/-! ### Calls as moves -/

/-- A move of a call. -/
inductive Move where
  | attempt
  | recovery
  deriving DecidableEq, Repr

/-- What a move results in. -/
abbrev Move.Answer (α : Type) : Move → Type
  | attempt => Except Error α
  | recovery => Except Error Unit

/-- The moves of a call, with their results. -/
abbrev Moves (α : Type) := List (Exchange Move (Move.Answer α))

/-- The course of a call. -/
def course (mayRetry canRecover : Bool) : Dialogue Move (Move.Answer α) (Except Error α) := do
  match (← Dialogue.query Move.attempt : Except Error α) with
  | .ok value => return .ok value
  | .error e =>
    if e.isRefused && mayRetry && canRecover then
      match (← Dialogue.query Move.recovery : Except Error Unit) with
      | .ok () => Dialogue.query Move.attempt
      | .error e => return .error e
    else return .error e

/-- What a move asks. -/
def play (attempt : Link.Asking (Except Error α)) : (m : Move) → Asking (m.Answer α)
  | .attempt => onLink attempt
  | .recovery => recover

theorem call_eq_answerWith (c : Client) (mayRetry : Bool) (attempt : Link.Asking (Except Error α)) :
    c.call mayRetry attempt = (course mayRetry c.canRecover).answerWith (play attempt) := by
  show (onLink attempt).bind _ = (onLink attempt).bind _
  congr 1
  funext result
  rcases result with e | value
  · dsimp only
    cases h : (e.isRefused && mayRetry && c.canRecover) with
    | true =>
      simp only [done_bind, h, if_true]
      show recover.bind _ = recover.bind _
      congr 1
      funext answer
      rcases answer with cause | _
      · rfl
      · exact (bind_done _).symm
    | false =>
      simp only [done_bind, h]
      rfl
  · rfl

/-- The ways in which a call can go. -/
inductive Taken (mayRetry canRecover : Bool) : Moves α → Except Error α → Prop
  | once (result : Except Error α) (final : (wasRefused result && mayRetry && canRecover) = false) :
      Taken mayRetry canRecover [⟨.attempt, result⟩] result
  | abandoned (url : String) (cause : Error) (may : mayRetry = true) (can : canRecover = true) :
      Taken mayRetry canRecover
        [⟨.attempt, .error (.refused url)⟩, ⟨.recovery, .error cause⟩] (.error cause)
  | again (url : String) (result : Except Error α) (may : mayRetry = true)
      (can : canRecover = true) :
      Taken mayRetry canRecover
        [⟨.attempt, .error (.refused url)⟩, ⟨.recovery, .ok ()⟩, ⟨.attempt, result⟩] result

theorem taken_of_branch {mayRetry canRecover : Bool} {moves : Moves α} {result : Except Error α}
    (h : (course mayRetry canRecover).Branch moves result) :
    Taken mayRetry canRecover moves result := by
  cases h with
  | ask first rest =>
    rcases first with e | value
    · cases hretry : (e.isRefused && mayRetry && canRecover) with
      | true =>
        simp only [done_bind, hretry, if_true] at rest
        simp only [Bool.and_eq_true] at hretry
        obtain ⟨⟨hrefused, may⟩, can⟩ := hretry
        have hresult : wasRefused (.error e : Except Error α) = true := hrefused
        obtain ⟨url, heq⟩ := wasRefused_iff.mp hresult
        cases heq
        cases rest with
        | ask answer rest =>
          rcases answer with cause | _
          · obtain ⟨rfl, rfl⟩ := branch_done_iff.mp rest
            exact .abandoned url cause may can
          · obtain rfl := branch_query_iff.mp rest
            exact .again url result may can
      | false =>
        simp only [done_bind, hretry, Bool.false_eq_true, if_false] at rest
        obtain ⟨rfl, rfl⟩ := branch_done_iff.mp rest
        exact .once (.error e) hretry
    · obtain ⟨rfl, rfl⟩ := branch_done_iff.mp rest
      exact .once (.ok value) rfl

/-! ### The laws of the moves -/

/-- The results of the attempts. -/
def attempts (moves : Moves α) : List (Except Error α) :=
  moves.filterMap fun
    | ⟨.attempt, result⟩ => some result
    | ⟨.recovery, _⟩ => none

/-- The results of bringing the daemon back up. -/
def recoveries (moves : Moves α) : List (Except Error Unit) :=
  moves.filterMap fun
    | ⟨.attempt, _⟩ => none
    | ⟨.recovery, result⟩ => some result

/-- The first attempt was refused, and a refused call is to be made again. -/
def IsToRetry (mayRetry canRecover : Bool) (moves : Moves α) : Prop :=
  (∃ url, (attempts moves).head? = some (.error (.refused url))) ∧ mayRetry = true ∧
    canRecover = true

/-- The laws of the moves of a call. -/
structure OneRetry (mayRetry canRecover : Bool) (moves : Moves α) (result : Except Error α) :
    Prop where
  /-- There are at most two attempts, with at most one recovery, which stands behind the first. -/
  order : moves.map Exchange.question <+: [.attempt, .recovery, .attempt]
  /-- There is an attempt. -/
  attempts_ne_nil : attempts moves ≠ []
  /-- The daemon is brought back up if and only if a refused call is to be made again. -/
  recovery_iff : recoveries moves ≠ [] ↔ IsToRetry mayRetry canRecover moves
  /-- There is a second attempt if and only if that worked. -/
  again_iff : 1 < (attempts moves).length ↔
    IsToRetry mayRetry canRecover moves ∧ recoveries moves = [.ok ()]
  /-- If it did not work, the call fails for the same reason. -/
  eq_cause : ∀ cause, recoveries moves = [.error cause] → result = .error cause
  /-- Otherwise the result is the one of the last attempt. -/
  eq_last : (∀ cause, recoveries moves ≠ [.error cause]) → (attempts moves).getLast? = some result

theorem Taken.oneRetry {mayRetry canRecover : Bool} {moves : Moves α} {result : Except Error α}
    (h : Taken mayRetry canRecover moves result) : OneRetry mayRetry canRecover moves result := by
  cases h with
  | once result final =>
    have hnot : ¬IsToRetry mayRetry canRecover [⟨.attempt, result⟩] := by
      rintro ⟨⟨url, hurl⟩, rfl, rfl⟩
      cases Option.some.inj hurl
      cases final
    exact
      { order := ⟨[.recovery, .attempt], rfl⟩
        attempts_ne_nil := List.cons_ne_nil _ _
        recovery_iff := ⟨fun hne => absurd rfl hne, fun hretry => absurd hretry hnot⟩
        again_iff := ⟨fun hlt => absurd hlt (Nat.lt_irrefl 1), fun hretry => absurd hretry.1 hnot⟩
        eq_cause := fun cause heq => by cases heq
        eq_last := fun _ => rfl }
  | abandoned url cause may can =>
    exact
      { order := ⟨[.attempt], rfl⟩
        attempts_ne_nil := List.cons_ne_nil _ _
        recovery_iff := ⟨fun _ => ⟨⟨url, rfl⟩, may, can⟩, fun _ => List.cons_ne_nil _ _⟩
        again_iff := ⟨fun hlt => absurd hlt (Nat.lt_irrefl 1), fun hretry => by cases hretry.2⟩
        eq_cause := fun other heq => by cases heq; rfl
        eq_last := fun hnone => absurd rfl (hnone cause) }
  | again url result may can =>
    exact
      { order := ⟨[], rfl⟩
        attempts_ne_nil := List.cons_ne_nil _ _
        recovery_iff := ⟨fun _ => ⟨⟨url, rfl⟩, may, can⟩, fun _ => List.cons_ne_nil _ _⟩
        again_iff := ⟨fun _ => ⟨⟨⟨url, rfl⟩, may, can⟩, rfl⟩, fun _ => Nat.lt_succ_self 1⟩
        eq_cause := fun cause heq => by cases heq
        eq_last := fun _ => rfl }

end MeshControl.Daemon.Client
