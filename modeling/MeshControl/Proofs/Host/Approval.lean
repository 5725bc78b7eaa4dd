import MeshControl.Proofs.Host.Parts

/-!
# The user's yes

`Approved nonInteractive question log` says that somebody was to be asked, that the question was
written, and that the line which was read right behind it says yes.  It is the permission of all that
a question guards: a confirmation that comes out as a yes has it (`approved_of_branch`), and it lasts
(`lasting_approved`).

The kinds of exchange that a question may guard are told apart here: what is read from the user, what
is run on the terminal, and what leaves something changed.
-/

namespace MeshControl.Host

open Dialogue MeshControl.Http MeshControl.Text

/-- The user was asked the question, and the line that was read for it says yes. -/
def Approved (nonInteractive : Bool) (question : String) (log : Log) : Prop :=
  nonInteractive = false ∧ ∃ before bytes line after,
    log = before ++ ⟨.print (questionText question), ()⟩ :: ⟨.readLine, .ok bytes⟩ :: after ∧
      Files.textOf bytes = .ok line ∧ asciiLowered (trimmed line) ∈ ["y", "yes"]

theorem lasting_approved (nonInteractive : Bool) (question : String) :
    Lasting (Approved nonInteractive question) where
  prepend := by
    rintro earlier _ ⟨hasked, before, bytes, line, after, rfl, hyes⟩
    exact ⟨hasked, earlier ++ before, bytes, line, after, (List.append_assoc _ _ _).symm, hyes⟩
  append := by
    rintro _ later ⟨hasked, before, bytes, line, after, rfl, hyes⟩
    refine ⟨hasked, before, bytes, line, after ++ later, ?_, hyes⟩
    rw [List.append_assoc]
    rfl

theorem branch_readLine_iff {log : Log} {result : Except String String} :
    readLine.Branch log result ↔
      ∃ given : Except String (List UInt8), log = [⟨.readLine, given⟩] ∧
        result = given.bind fun bytes => (Files.textOf bytes).mapError Files.Error.message := by
  unfold readLine
  rw [bind_eq, branch_bind_iff]
  constructor
  · rintro ⟨_, given, _, hquery, hdone, rfl⟩
    obtain rfl := branch_query_iff.mp hquery
    obtain ⟨rfl, rfl⟩ := branch_done_iff.mp hdone
    exact ⟨given, rfl, rfl⟩
  · rintro ⟨given, rfl, rfl⟩
    exact ⟨_, given, [], branch_query_iff.mpr rfl, branch_done_iff.mpr ⟨rfl, rfl⟩, rfl⟩

theorem saysYes_iff {line : String} :
    saysYes line = true ↔ asciiLowered (trimmed line) ∈ ["y", "yes"] := by
  unfold saysYes
  exact List.contains_iff_mem

/-- **A confirmation is a yes.** -/
theorem approved_of_branch {nonInteractive : Bool} {question : String} {log : Log}
    (h : (confirmUnless nonInteractive question).Branch log (.ok true)) :
    Approved nonInteractive question log := by
  cases nonInteractive with
  | true =>
    obtain ⟨_, hok⟩ := branch_done_iff.mp h
    cases hok
  | false =>
    obtain ⟨first, _, rest, hprint, hanswer, rfl⟩ := branch_bind_iff.mp h
    obtain rfl := branch_query_iff.mp hprint
    obtain ⟨first, read, rest, hread, hdone, rfl⟩ := branch_bind_iff.mp hanswer
    obtain ⟨given, rfl, rfl⟩ := branch_readLine_iff.mp hread
    rcases given with cause | bytes
    · obtain ⟨_, hok⟩ := branch_done_iff.mp hdone
      cases hok
    · cases htext : Files.textOf bytes with
      | error flaw =>
        simp only [Except.bind, htext, Except.mapError] at hdone
        obtain ⟨_, hok⟩ := branch_done_iff.mp hdone
        cases hok
      | ok line =>
        simp only [Except.bind, htext, Except.mapError] at hdone
        obtain ⟨rfl, hok⟩ := branch_done_iff.mp hdone
        injection hok with hyes
        refine ⟨rfl, [], bytes, line, [], rfl, htext, ?_⟩
        exact saysYes_iff.mp hyes.symm

/-! ### Kinds of exchange -/

/-- Whether something is read from the user. -/
def isReading : Exchange Call Call.Answer → Bool
  | ⟨.readLine, _⟩ | ⟨.readHidden, _⟩ => true
  | _ => false

/-- Whether a program is run on the terminal. -/
def isAttach : Exchange Call Call.Answer → Bool
  | ⟨.attach _ _, _⟩ => true
  | _ => false

/-- Whether something may be changed: a request is sent, a program is run on the terminal, or a file
is made, written or taken away. -/
def isChange : Exchange Call Call.Answer → Bool
  | ⟨.send _, _⟩ | ⟨.attach _ _, _⟩ => true
  | ⟨.files (.read _), _⟩ | ⟨.files (.isThere _), _⟩ => false
  | ⟨.files _, _⟩ => true
  | _ => false

end MeshControl.Host
