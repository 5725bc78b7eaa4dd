import MeshControl.Daemon.Recovery
import MeshControl.Proofs.Host.Approval

/-!
# Bringing the daemon back up only after a yes

The permission to bring the daemon back up is a policy that does not rule it out and a yes of the user
(`Recovery.Allowed`).  Whatever kind of exchange is looked at, as long as asking the user is none: a
recovery does nothing of that kind without the permission, and fails then (`Recovery.guarded_run`).
-/

namespace MeshControl.Daemon

open Dialogue MeshControl.Host

variable {granted : Log → Prop} {deed : Exchange Call Call.Answer → Prop}

namespace Service

theorem minds_systemctl (hg : Lasting granted) {arguments : List String}
    (hattach : ∀ answer, ¬deed ⟨.attach "systemctl" arguments, answer⟩) (action : String) :
    Minds granted deed (systemctl arguments action) := by
  unfold systemctl
  refine (minds_query hattach).bind_all hg fun answer => ?_
  cases answer with
  | error cause => exact minds_done _
  | ok ending =>
    dsimp only
    split_ifs
    · exact minds_done _
    · exact minds_done _

/-- An installation asks for rights and files, and runs `systemctl`. -/
theorem minds_install (hg : Lasting granted)
    (hfiles : ∀ question answer, ¬deed ⟨.files question, answer⟩)
    (hsuper : ∀ answer, ¬deed ⟨.isSuperuser, answer⟩)
    (hsystemctl : ∀ arguments action, Minds granted deed (systemctl arguments action))
    (s : Service) (searchPath? : Option String) :
    Minds granted deed (s.install searchPath?).run := by
  have hwrite : ∀ text, Minds granted deed (writeFile s.unitPath text) :=
    fun _ => minds_query (hfiles _)
  unfold install
  refine Minds.run_bind hg ((minds_query hsuper).run_liftM hg) fun isSuper => ?_
  cases isSuper with
  | false => exact minds_done _
  | true =>
    refine Minds.run_bind hg ((minds_onFiles hg hfiles _).run_liftM hg) fun program? => ?_
    cases program? with
    | none => exact minds_done _
    | some program =>
      refine Minds.run_bind hg ((hwrite _).run_liftM hg) fun written => ?_
      cases written with
      | error cause => exact minds_done _
      | ok _ => exact Minds.run_bind hg (hsystemctl _ _) fun _ => hsystemctl _ _

end Service

namespace Recovery

/-- The daemon may be brought back up: the policy does not rule it out, and the user said yes. -/
def Allowed (r : Recovery) (log : Log) : Prop :=
  r.policy ≠ .never ∧ Approved r.nonInteractive question log

theorem lasting_allowed (r : Recovery) : Lasting r.Allowed where
  prepend := And.imp_right (lasting_approved _ _).prepend
  append := And.imp_right (lasting_approved _ _).append

theorem minds_isWanted (hg : Lasting granted) (r : Recovery)
    (hconfirm : Minds granted deed (confirmUnless r.nonInteractive question)) :
    Minds granted deed r.isWanted := by
  unfold isWanted
  split_ifs
  · exact minds_done _
  · refine hconfirm.bind_all hg fun answer => ?_
    rcases answer with cause | _ | _
    · exact minds_done _
    · exact minds_done _
    · exact minds_done _

/-- What is wanted is allowed. -/
theorem allowed_of_branch {r : Recovery} {log : Log} (h : r.isWanted.Branch log (.ok ())) :
    r.Allowed log := by
  unfold isWanted at h
  by_cases hnever : r.policy = .never
  · rw [if_pos hnever] at h
    obtain ⟨_, hok⟩ := branch_done_iff.mp h
    cases hok
  · rw [if_neg hnever] at h
    obtain ⟨first, answer, rest, hconfirm, hdone, rfl⟩ := branch_bind_iff.mp h
    rcases answer with cause | _ | _
    · obtain ⟨_, hok⟩ := branch_done_iff.mp hdone
      cases hok
    · obtain ⟨_, hok⟩ := branch_done_iff.mp hdone
      cases hok
    · exact (lasting_allowed r).append ⟨hnever, approved_of_branch hconfirm⟩

/-- **A recovery does nothing that is not allowed**, and fails if it is not allowed. -/
theorem guarded_run (r : Recovery) (access : Access) (hprint : ∀ text, ¬deed ⟨.print text, ()⟩)
    (hconfirm : Minds r.Allowed deed (confirmUnless r.nonInteractive question)) :
    Guarded r.Allowed deed (r.run access) := by
  have hg := lasting_allowed r
  have hwanted : Guarded r.Allowed deed r.isWanted :=
    ⟨minds_isWanted hg r hconfirm, fun _ _ h => allowed_of_branch h⟩
  have htold : Minds r.Allowed deed
      (print (Terminal.infoLine "Daemon does not seem to be running")) :=
    minds_query fun _ => hprint _
  unfold run
  exact htold.bind_guarded hg fun _ => hwanted.bind hg fun e => ⟨e, rfl⟩

end Recovery

end MeshControl.Daemon
