import MeshControl.Account.TokenFile
import MeshControl.Files.Tree
import MeshControl.Proofs.Dialogue.Answered
import MeshControl.Proofs.Files.Tree
import MeshControl.Proofs.Text.Utf8

/-!
# The kept token is read back

On a tree of files, reading the token changes nothing (`run_load`), and after a token was saved the
file holds its bytes, however the directories looked before (`findFile_of_save`).  So a token that is
neither blank nor has blanks around it is read back as it was saved (`run_load_of_save`).
-/

namespace MeshControl.Account

open MeshControl.Files MeshControl.Text Dialogue

/-- A token is not blank and has no blanks around it. -/
def IsClean (token : String) : Prop :=
  trimmed token ≠ "" ∧ trimmed token = token

namespace TokenFile

variable {t u : Tree} {path token : String}

theorem tokenOf?_eq_some (h : IsClean token) : tokenOf? token = some token := by
  have hne : (trimmed token).isEmpty = false := by
    rw [Bool.eq_false_iff, ne_eq, String.isEmpty_iff]
    exact h.1
  rw [tokenOf?, hne, h.2]
  rfl

/-- What reading a token yields, given what the file system has to say. -/
def outcome (path : String) : Except Files.Error String → Except TokenError (Option String)
  | .ok text => .ok (tokenOf? text)
  | .error .notFound => .ok none
  | .error cause => .error (.unreadable path cause)

/-- Reading the token leaves the tree as it is. -/
theorem run_load : (load path).run Tree.answer t =
    (outcome path (((t.findFile path).map fun x => x.2.1).bind textOf), t) := by
  rw [load, readText]
  simp only [bind_eq, run_bind, run_query, pure_eq, Dialogue.run, Tree.answer]
  generalize ((t.findFile path).map fun x => x.2.1).bind textOf = text
  cases text with
  | ok text => rfl
  | error cause => cases cause <;> rfl

/-- The token is read back where its bytes are found. -/
theorem run_load_of_findFile {p : Place} {mode : Nat}
    (h : t.findFile path = .ok (p, Utf8.encode token, mode)) :
    (load path).run Tree.answer t = (.ok (tokenOf? token), t) := by
  have htext : textOf (Utf8.encode token) = .ok token := by
    rw [textOf, Utf8.decode?_encode]
  rw [run_load, h]
  exact congrArg (fun text => (outcome path text, t)) htext

/-- A file is filled by writing the token and renaming the file. -/
theorem run_fill_eq_ok {temporary : String}
    (h : (fill temporary path token).run.run Tree.answer t = (.ok (), u)) :
    ∃ v w : Tree, v.write temporary (Utf8.encode token) = .ok w ∧
      w.rename temporary path = .ok u := by
  obtain ⟨_, v, _, h⟩ := run_bind_eq_ok_iff.mp h
  obtain ⟨_, w, hwrite, h⟩ := run_bind_eq_ok_iff.mp h
  obtain ⟨_, x, hsync, hrename⟩ := run_bind_eq_ok_iff.mp h
  obtain rfl : w = x := (Prod.mk.inj hsync).2
  exact ⟨v, w, Tree.settle_eq_ok_iff.mp hwrite, Tree.settle_eq_ok_iff.mp hrename⟩

theorem run_fillOrRemove_eq_ok {temporary : String}
    (h : (fillOrRemove temporary path token).run Tree.answer t = (.ok (), u)) :
    (fill temporary path token).run.run Tree.answer t = (.ok (), u) := by
  rw [fillOrRemove, bind_eq, run_bind] at h
  generalize (fill temporary path token).run.run Tree.answer t = filled at h ⊢
  obtain ⟨cause | _, v⟩ := filled
  · cases (Prod.mk.inj h).1
  · exact h

/-- What was saved stands under the name of the token. -/
theorem findFile_of_save (h : (save path token).run Tree.answer t = (.ok (), u)) :
    ∃ p mode, u.findFile path = .ok (p, Utf8.encode token, mode) := by
  rw [save, bind_eq, run_bind] at h
  have hsteps : (saveSteps path token).run.run Tree.answer t = (.ok (), u) := by
    generalize (saveSteps path token).run.run Tree.answer t = saved at h ⊢
    obtain ⟨cause | _, v⟩ := saved
    · cases (Prod.mk.inj h).1
    · cases h
      rfl
  obtain ⟨_, v, _, hsteps⟩ := run_bind_eq_ok_iff.mp hsteps
  obtain ⟨temporary, w, _, hsteps⟩ := run_bind_eq_ok_iff.mp hsteps
  obtain ⟨x, y, hwrite, hrename⟩ := run_fill_eq_ok (run_fillOrRemove_eq_ok hsteps)
  obtain ⟨p, mode, hfind⟩ := Tree.findFile_of_write hwrite
  obtain ⟨q, hfind⟩ := Tree.findFile_of_rename hfind hrename
  exact ⟨q, mode, hfind⟩

/-- **A token that was saved is read back.** -/
theorem run_load_of_save (clean : IsClean token)
    (h : (save path token).run Tree.answer t = (.ok (), u)) :
    (load path).run Tree.answer u = (.ok (some token), u) := by
  obtain ⟨p, mode, hfind⟩ := findFile_of_save h
  rw [run_load_of_findFile hfind, tokenOf?_eq_some clean]

end TokenFile

end MeshControl.Account
