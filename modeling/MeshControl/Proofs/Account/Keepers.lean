import MeshControl.Account.Rehearsal
import MeshControl.Proofs.Account.Keeping
import MeshControl.Proofs.Account.TokenHistory

/-!
# Keepers

Two places where a token is kept, with the laws of the kept token in each.

* A file (`TokenFile.keeper`), on a disk that may fail at any step of a save (`Disk`).  The invariant is
  the stage of the file along a history of saves, and what is kept is what the file holds; so every
  attempt is made with the token that would be read from the file at that moment
  (`TokenFile.spending_filed`).
* The memory of a rehearsal (`Rehearsal.keeper`), whose scripts and issuer answer all else
  (`Rehearsal.tokenLaws_hold`).
-/

namespace MeshControl.Account

open Dialogue MeshControl.Files MeshControl.Text

/-! ### A file -/

/-- A disk with a state of its own, on which each step may fail or be taken in part. -/
structure Disk (ρ : Type) where
  answer : ρ × Tree → (q : Files.Call) → q.Answer × (ρ × Tree)
  faulty : ∀ s q, Tree.Faulty s.2 q (answer s q).1 (answer s q).2.2

namespace Disk

/-- A disk on which some of the next steps fail, each for a reason of its own, and later ones do
not. -/
def scheduled : Disk (List (Option Files.Error)) where
  answer
    | (some e :: later, t), q => (q.failing e, later, t)
    | (none :: later, t), q => ((t.answer q).1, later, (t.answer q).2)
    | ([], t), q => ((t.answer q).1, [], (t.answer q).2)
  faulty s q := by
    obtain ⟨_ | ⟨_ | e, later⟩, t⟩ := s
    · exact .works q
    · exact .works q
    · exact .idle q e

variable {ρ α : Type}

/-- What is done on a disk is done in steps that may fail. -/
theorem steps_runLogged (disk : Disk ρ) (d : Files.Asking α) (s : ρ × Tree) :
    Tree.Steps s.2 (d.runLogged disk.answer s).2.2 (d.runLogged disk.answer s).2.1.2 :=
  Tree.steps_runLogged_of_faulty disk.faulty d s

end Disk

namespace TokenFile

/-- The text of the file at a place. -/
def textAt? (t : Tree) (p : Place) : Option String :=
  match t.get? p with
  | some (.file contents _) => Utf8.decode? contents
  | _ => none

variable {ρ : Type} {t t' u : Tree} {path : String} {p : Place} {held? : Option String}

/-- What the file holds is what is kept. -/
theorem Stage.textAt?_eq (h : Stage t path t' p u held?) : textAt? u p = held? := by
  rw [textAt?, h.entry_eq]
  cases held? with
  | none => rfl
  | some token => exact Utf8.decode?_encode token

/-- A disk together with a place on it at which a token is kept or can be kept. -/
def Filed (ρ : Type) (t : Tree) (path : String) (t' : Tree) (p : Place) : Type :=
  {s : ρ × Tree // ∃ held?, Stage t path t' p s.2 held?}

/-- A save that fails at any of its steps leaves a token there, or room for one. -/
theorem exists_stage_save (site : Site t path t' p) (disk : Disk ρ) (s : Filed ρ t path t' p)
    (token : String) :
    ∃ held?, Stage t path t' p ((save path token).runLogged disk.answer s.1).2.1.2 held? := by
  obtain ⟨held?, hheld⟩ := s.2
  exact ⟨_, hheld.save site (branch_runLogged disk.answer _ s.1).begins (disk.steps_runLogged _ s.1)⟩

/-- Saves a token on a disk. -/
def saveOn (site : Site t path t' p) (disk : Disk ρ) (s : Filed ρ t path t' p) (token : String) :
    Except TokenError Unit × Filed ρ t path t' p :=
  let run := (save path token).runLogged disk.answer s.1
  (run.1, ⟨run.2.1, exists_stage_save site disk s token⟩)

/-- Behind a save the file holds the token if the save succeeded, and what it held otherwise. -/
theorem textAt?_saveOn (site : Site t path t' p) (disk : Disk ρ) (s : Filed ρ t path t' p)
    (token : String) :
    textAt? (saveOn site disk s token).2.1.2 p =
      if (saveOn site disk s token).1.isOk then some token else textAt? s.1.2 p := by
  obtain ⟨held?, hheld⟩ := s.2
  have hbranch := branch_runLogged disk.answer (save path token) s.1
  have hsaved := hheld.save site hbranch.begins (disk.steps_runLogged _ s.1)
  rw [hheld.textAt?_eq, show (saveOn site disk s token).1.isOk = _ from
    (any_isRenamed_of_save hbranch).symm]
  exact hsaved.textAt?_eq

/-- The sixth step of a save puts the file under its name; where it fails, nothing is kept. -/
example :
    let run := (save "/c/t" "one").runLogged Disk.scheduled.answer
      (List.replicate 5 none ++ [some .notPermitted], {})
    run.1.isOk = false ∧ textAt? run.2.1.2 ["c", "t"] = none := by
  decide +kernel

/-- What reading a token yields where it is kept. -/
theorem run_load_filed (site : Site t path t' p) (s : Filed ρ t path t' p) :
    (load path).run Tree.answer s.1.2 = (.ok ((textAt? s.1.2 p).bind tokenOf?), s.1.2) := by
  obtain ⟨held?, hheld⟩ := s.2
  rw [hheld.textAt?_eq, hheld.run_load site]

/-- A keeper of a token in a file. -/
def keeper (site : Site t path t' p) (disk : Disk ρ) : Keeper (Filed ρ t path t' p) where
  kept? s := textAt? s.1.2 p
  read? := tokenOf?
  load s := (((load path).run Tree.answer s.1.2).1, s)
  save := saveOn site disk
  load_eq {s token?} h := by
    rw [run_load_filed site s] at h
    exact (Except.ok.inj h).symm
  kept?_load _ := rfl
  kept?_save {s token} h := by
    rw [textAt?_saveOn, h]
    rfl
  kept?_unsaved {s token e} h := by
    rw [textAt?_saveOn, h]
    rfl

@[simp]
theorem read?_keeper (site : Site t path t' p) (disk : Disk ρ) :
    (keeper site disk).read? = tokenOf? := rfl

@[simp]
theorem token?_keeper (site : Site t path t' p) (disk : Disk ρ) (s : Filed ρ t path t' p) :
    (keeper site disk).token? s = (textAt? s.1.2 p).bind tokenOf? := rfl

section Session

open Session

variable {α ι : Type} {site : Site t path t' p} {disk : Disk ρ}
  {world : Filed ρ t path t' p × ι → (q : Session.Call) → q.Answer α × (Filed ρ t path t' p × ι)}
  {s : Filed ρ t path t' p × ι} {log : Session.Log α}

/-- Where the laws of the kept token hold of a file, clean tokens are used as they are read. -/
theorem everywhere_spending_of_tokenLaws (laws : TokenLaws (keeper site disk) world s log)
    (clean : ∀ token ∈ saved log, IsClean token) :
    Everywhere (fun before x => ∃ token?,
      ((load path).run Tree.answer (stateAfter world s before).1.1.2).1 = .ok token? ∧
        Spending token? x) log := by
  have hread : ∀ token ∈ saved log, (keeper site disk).read? token = some token := by
    intro token hmem
    rw [read?_keeper]
    exact tokenOf?_eq_some (clean token hmem)
  intro before x after hlog
  refine ⟨(keeper site disk).token? (stateAfter world s before).1, ?_,
    laws.spending hread before x after hlog⟩
  rw [run_load_filed site, token?_keeper]

/-- **A session uses the token of its file.**  Whichever steps of the disk fail and whatever all others
answer, each attempt and each renewal is asked for with the token that would be read from the file at
that moment, if all tokens that were saved are clean. -/
theorem spending_filed (site : Site t path t' p) (disk : Disk ρ)
    (others : ι → (q : Session.Call) → q.Answer α × ι) (s : Filed ρ t path t' p × ι)
    (uses : List Use) :
    let world := keptWorld (keeper site disk) others
    let log := ((useAll uses).runLogged world s).2.2
    (∀ token ∈ saved log, IsClean token) →
      Everywhere (fun before x => ∃ token?,
        ((load path).run Tree.answer (stateAfter world s before).1.1.2).1 = .ok token? ∧
          Spending token? x) log := by
  intro world log
  have laws : TokenLaws (keeper site disk) world s log :=
    (isKeptIn_keptWorld _ others).tokenLaws (usedInTurn_runLogged uses _ s)
      (answered_runLogged world (useAll uses) s)
  exact everywhere_spending_of_tokenLaws laws

end Session

end TokenFile

/-! ### The memory of a rehearsal -/

namespace Rehearsal

variable {α : Type}

/-- A keeper of the token of a rehearsal. -/
def keeper : Keeper (Rehearsal α) where
  kept? r := r.token?
  read? := some
  load r := r.answer .load
  save r token := r.answer (.save token)
  load_eq {r token?} h := by
    simp only [answer] at h
    split at h
    · cases h
    · cases h
      simp
  kept?_load _ := rfl
  kept?_save {r token} h := by
    simp only [answer] at h ⊢
    split at h
    · cases h
    · rfl
  kept?_unsaved {r token e} h := by
    simp only [answer] at h ⊢
    split at h
    · rfl
    · cases h

/-- Issuing a token keeps none. -/
theorem token?_issue (r : Rehearsal α) : r.issue.2.token? = r.token? := by
  rw [issue]
  cases r.issuer? <;> rfl

theorem token?_reissue (r : Rehearsal α) (token : String) :
    (r.reissue token).2.token? = r.token? := by
  rw [reissue]
  split
  · rfl
  · split
    · exact r.token?_issue
    · rfl

/-- A rehearsal as surroundings that keep a token and have nothing else beside it. -/
def world (s : Rehearsal α × Unit) (q : Session.Call) : q.Answer α × (Rehearsal α × Unit) :=
  ((s.1.answer q).1, (s.1.answer q).2, ())

open Session

variable {r r' : Rehearsal α} {log : Session.Log α}

/-- Whatever its scripts and its issuer answer, a rehearsal keeps its token. -/
theorem isKeptIn_world : IsKeptIn keeper (world (α := α)) where
  kept?_eq s q := by
    obtain ⟨r, _⟩ := s
    cases q with
    | load => exact keeper.kept?_load r
    | save token =>
      show keeper.kept? (keeper.save r token).2 =
        (saved? ⟨.save token, (keeper.save r token).1⟩).or (keeper.kept? r)
      cases hsaved : (keeper.save r token).1 with
      | error e => exact keeper.kept?_unsaved hsaved
      | ok => exact keeper.kept?_save hsaved
    | credentials => rfl
    | obtain who =>
      show (r.answer (.obtain who)).2.token? = r.token?
      rw [answer]
      split
      · rfl
      · exact r.token?_issue
    | renew token =>
      show (r.answer (.renew token)).2.token? = r.token?
      rw [answer]
      split
      · rfl
      · exact r.token?_reissue token
    | perform token =>
      show (r.answer (.perform token)).2.token? = r.token?
      rw [answer]
      split <;> rfl
  load_eq {s token?} h := keeper.load_eq h

theorem answered_world (h : Answered answer r log r') : Answered world (r, ()) log (r', ()) := by
  induction log generalizing r with
  | nil => exact congrArg (·, ()) h
  | cons x log ih =>
    obtain ⟨next, hx, hrest⟩ := h
    exact ⟨(next, ()), by rw [world, hx], ih hrest⟩

/-- **The laws of the kept token hold of rehearsals**, and what is kept behind one is what was saved
last. -/
theorem tokenLaws_hold (r : Rehearsal α) (uses : List Use) :
    let (_, after, log) := (useAll uses).runLogged answer r
    TokenLaws keeper world (r, ()) log ∧ after.token? = (saved log).getLast?.or r.token? := by
  have answered := answered_world (answered_runLogged answer (useAll uses) r)
  have used := usedInTurn_runLogged uses answer r
  refine ⟨isKeptIn_world.tokenLaws used answered, ?_⟩
  rw [← keptAfter_eq]
  exact isKeptIn_world.kept?_of_answered answered

end Rehearsal

end MeshControl.Account
