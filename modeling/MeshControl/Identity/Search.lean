import MeshControl.Dialogue
import MeshControl.Identity.Basic

/-!
# Searching for an identity

Identities are generated by tasks, several at a time, until one has the prefix, a generator fails, or
the attempts are used up.  The state of a search is that of its main loop, of the tasks in flight and
of the two cells in which the first match and the first failure are recorded.  `State.step?` says which
moves are possible and what they lead to, in any order in which the loop and the tasks may take them;
`search` is the run in which each task takes its moves as soon as it has begun.

The main loop looks at the cells twice for each attempt: before it waits for a free worker, and again
once it has one.  It looks at one cell after the other, so a task may fill the first one between two
looks.

Workers are handed out as permits, and there is a greatest number of permits (`permitLimit`).  A search
that is to have more workers breaks off before it begins, and whoever asked for it gets no result.
-/

namespace MeshControl.Identity

namespace Search

/-! ### Workers -/

/-- The most permits that there can be: the greatest word but for three bits. -/
def permitLimit : Nat := (UInt64.size - 1) >>> 3

/-- How many workers a search has. -/
structure Workers where
  count : Nat
  pos : 0 < count
  le_limit : count ≤ permitLimit
  deriving DecidableEq, Repr

/-- The workers of a search that is to have so many, unless there cannot be so many.  None counts as
one. -/
def Workers.ofCount? (count : Nat) : Option Workers :=
  if h : max 1 count ≤ permitLimit then
    some ⟨max 1 count, Nat.lt_of_lt_of_le Nat.one_pos (Nat.le_max_left 1 count), h⟩
  else none

/-! ### States -/

/-- What a generator yields: an identity, or why there is none. -/
abbrev Outcome := Except String Identity

/-- A task in flight.  It occupies a worker until it is gone. -/
inductive Task where
  /-- The generator has not answered yet. -/
  | fresh
  /-- The generator has answered, and the answer is not recorded yet. -/
  | holding (outcome : Outcome)
  /-- The answer is recorded, and the worker is not free yet. -/
  | recorded

/-- The cells in which the first match and the first failure are recorded. -/
inductive Cell where
  | found
  | failure
  deriving DecidableEq, Repr

/-- Where the main loop is. -/
inductive Phase where
  /-- Looking at a cell at the beginning of an attempt. -/
  | before (cell : Cell)
  /-- Waiting for a free worker. -/
  | acquiring
  /-- Looking at a cell with a worker in hand. -/
  | after (cell : Cell)
  /-- Waiting for the tasks in flight. -/
  | draining
  | over
  deriving DecidableEq, Repr

/-- The state of a search. -/
structure State where
  /-- The attempts that have not begun. -/
  left : Nat
  phase : Phase := .before .found
  tasks : List Task := []
  /-- The first match. -/
  found? : Option Identity := none
  /-- The first failure. -/
  failure? : Option String := none

/-- A move of the main loop or of a task in flight, given by its position. -/
inductive Move where
  | advance
  | generate (task : Nat) (outcome : Outcome)
  | record (task : Nat)
  | release (task : Nat)

namespace State

/-- Whether something is recorded in a cell. -/
def isFilled (s : State) : Cell → Bool
  | .found => s.found?.isSome
  | .failure => s.failure?.isSome

/-- Whether the search has come to a result. -/
def isDone (s : State) : Bool :=
  s.isFilled .found || s.isFilled .failure

/-- The state after a move of the main loop, if it can move. -/
def advance? (workers : Workers) (s : State) : Option State :=
  match s.phase with
  | .before cell =>
    if s.left = 0 || s.isFilled cell then some { s with phase := .draining }
    else some { s with phase := if cell = .found then .before .failure else .acquiring }
  | .acquiring =>
    if s.tasks.length < workers.count then some { s with phase := .after .found } else none
  | .after cell =>
    if s.isFilled cell then some { s with phase := .draining }
    else if cell = .found then some { s with phase := .after .failure }
    else
      some { s with left := s.left - 1, phase := .before .found, tasks := s.tasks ++ [.fresh] }
  | .draining => if s.tasks.isEmpty then some { s with phase := .over } else none
  | .over => none

/-- The state after an outcome is recorded: the first match and the first failure stay. -/
def note (start : String) (s : State) : Outcome → State
  | .error cause => { s with failure? := s.failure?.or (some cause) }
  | .ok identity =>
    if identity.hasPrefix start then { s with found? := s.found?.or (some identity) } else s

/-- The state after a move, if the move is possible. -/
def step? (workers : Workers) (start : String) (s : State) : Move → Option State
  | .advance => s.advance? workers
  | .generate i outcome =>
    match s.tasks[i]? with
    | some .fresh => some { s with tasks := s.tasks.set i (.holding outcome) }
    | _ => none
  | .record i =>
    match s.tasks[i]? with
    | some (.holding outcome) =>
      some { s.note start outcome with tasks := s.tasks.set i .recorded }
    | _ => none
  | .release i =>
    match s.tasks[i]? with
    | some .recorded => some { s with tasks := s.tasks.eraseIdx i }
    | _ => none

/-- The result of a search that is over. -/
def result (s : State) : Except SearchError (Option Identity) :=
  match s.found?, s.failure? with
  | some identity, _ => .ok (some identity)
  | none, some cause => .error (.generator cause)
  | none, none => .ok none

end State

/-! ### Searches -/

/-- What a search asks: the next outcome of the generator. -/
inductive Call where
  | generate
  deriving DecidableEq, Repr

/-- The kind of answer to a question. -/
abbrev Call.Answer : Call → Type
  | generate => Outcome

/-- A dialogue of a search. -/
abbrev Asking (α : Type) := Dialogue Call Call.Answer α

/-- Lets one worker generate identities one after another, for so many attempts at the most.  Each
round is a round of the main loop in which the task that it begins takes its moves at once. -/
def rounds (start : String) (s : State) : (left : Nat) → Asking State
  | 0 => return s
  | left + 1 => do
    if s.isDone then return s
    let outcome : Outcome ← Dialogue.query Call.generate
    rounds start { s.note start outcome with left := left } left

end Search

/-- What is said of a search that breaks off. -/
def Search.overstaffed : String :=
  "a semaphore may not have more than MAX_PERMITS permits (" ++ toString Search.permitLimit ++ ")"

/-- Searches for an identity with a prefix, with so many workers and for so many attempts at the most.
There is no result if there cannot be so many workers. -/
def search (start : String) (workers attempts : Nat) :
    Search.Asking (Option (Except SearchError (Option Identity))) := do
  if !isSearchable start then return some (.error (.badPrefix start))
  if (Search.Workers.ofCount? workers).isNone then return none
  return some (← Search.rounds start { left := attempts } attempts).result

end MeshControl.Identity
