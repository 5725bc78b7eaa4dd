import MeshControl.Proofs.Host.Parts

/-!
# What is sent from a machine

Requests are the only questions that leave the machine.  A kind of exchange that is a kind of
request costs nothing where only files, programs and the user are asked.
-/

namespace MeshControl.Host

open Dialogue MeshControl.Http

/-- Whether an exchange is a request that is sent. -/
def isSend : Exchange Call Call.Answer → Bool
  | ⟨.send _, _⟩ => true
  | _ => false

/-- Whether an exchange is a request with this method that is not refused. -/
def isUnrefused (method : Method) : Exchange Call Call.Answer → Bool
  | ⟨.send _, .error .refused⟩ => false
  | ⟨.send request, _⟩ => request.method = method
  | _ => false

theorem isUnrefused_eq_decide {method : Method} {request : Request}
    {answer : Except Failure Answer} (h : answer ≠ .error .refused) :
    isUnrefused method ⟨.send request, answer⟩ = decide (request.method = method) := by
  rcases answer with (_ | _ | _) | answer
  · exact absurd rfl h
  · rfl
  · rfl
  · rfl

theorem isUnrefused_iff {method : Method} {request : Request} {answer : Except Failure Answer} :
    isUnrefused method ⟨.send request, answer⟩ = true ↔
      answer ≠ .error .refused ∧ request.method = method := by
  by_cases h : answer = .error .refused
  · subst h
    exact ⟨nofun, fun hboth => absurd rfl hboth.1⟩
  · rw [isUnrefused_eq_decide h, decide_eq_true_iff, and_iff_right h]

/-- A kind of exchange that is a kind of request. -/
def OfSends (p : Exchange Call Call.Answer → Bool) : Prop :=
  ∀ x, isSend x = false → p x = false

theorem ofSends_isSend : OfSends isSend := fun _ h => h

/-- What is not sent is not counted among what is not refused. -/
theorem ofSends_isUnrefused {method : Method} : OfSends (isUnrefused method) := by
  rintro ⟨question, answer⟩ h
  cases question with
  | send request => cases h
  | _ => rfl

/-- Whether an exchange is a request that posts, whether or not it is refused. -/
def isPost : Exchange Call Call.Answer → Bool
  | ⟨.send request, _⟩ => request.method = .post
  | _ => false

theorem ofSends_isPost : OfSends isPost := by
  rintro ⟨question, answer⟩ h
  cases question with
  | send request => cases h
  | _ => rfl

/-- No request of the kind only reads. -/
def NoneReads (p : Exchange Call Call.Answer → Bool) : Prop :=
  ∀ request answer, request.method = .get → p ⟨.send request, answer⟩ = false

theorem noneReads_isPost : NoneReads isPost := by
  intro request answer hget
  show decide (request.method = .post) = false
  rw [hget]
  rfl

theorem noneReads_isUnrefused_post : NoneReads (isUnrefused .post) := by
  intro request answer hget
  cases hunrefused : isUnrefused .post ⟨.send request, answer⟩ with
  | false => rfl
  | true => cases hget.symm.trans (isUnrefused_iff.mp hunrefused).2

/-! ### Questions that send nothing -/

section Offline

variable {p : Exchange Call Call.Answer → Bool} {α : Type}

theorem OfSends.not (hp : OfSends p) {x : Exchange Call Call.Answer} (hx : isSend x = false) :
    ¬p x = true :=
  Bool.eq_false_iff.mp (hp x hx)

theorem atMost_onFiles (hp : OfSends p) (d : Files.Asking α) : AtMost p 0 (onFiles d) :=
  (minds_onFiles lasting_false (fun _ _ => hp.not rfl) d).atMost

theorem atMost_versionOf (hp : OfSends p) (program : String) : AtMost p 0 (versionOf program) :=
  (minds_versionOf lasting_false (fun _ _ _ _ => hp.not rfl) program).atMost

theorem atMost_confirmUnless (hp : OfSends p) (nonInteractive : Bool) (question : String) :
    AtMost p 0 (confirmUnless nonInteractive question) :=
  (minds_confirmUnless lasting_false (fun _ => hp.not rfl) (.inr fun _ => hp.not rfl)
    question).atMost

end Offline

end MeshControl.Host
