import MeshControl.Proofs.Daemon.Requests
import MeshControl.Proofs.Json.Fields

/-!
# Replies that report a failure

A call that was answered results in what the answer says (`Logged.result_eq`).  An answer whose status
is none of success says so however it looks otherwise, except that its result has to be one that could
have been read: the whole reply is read before its status is looked at.  So such a reply is told as a
rejection exactly if its result is missing, null or of the expected form (`readReply_of_rejects`).
-/

namespace MeshControl.Daemon

open Dialogue MeshControl.Http MeshControl.Json MeshControl.Text

variable {α : Type} {decode? : Node → Option α} {default : α}

/-! ### Replies -/

/-- The members of a reply whose status is none of success, with its result, if it has one. -/
structure Reply.Rejects (members : List (Option String × Node)) (status error : String)
    (result? : Option Node) : Prop where
  isSome : ∀ m ∈ members, m.1.isSome = true
  under_status : under "status" members = [.string (some status)]
  under_error : under "error" members = [.string (some error)]
  under_result : under "result" members = result?.toList
  status_ne : status ≠ "success" ∧ status ≠ "ok"

variable {members : List (Option String × Node)} {status error : String} {result? : Option Node}

theorem Reply.Rejects.isPlain (h : Reply.Rejects members status error result?) :
    IsPlain ["status", "error", "result"] members where
  isSome := h.isSome
  once := by
    simp only [List.forall_mem_cons, h.under_status, h.under_error, h.under_result]
    cases result? <;> simp

/-- A reply that rejects is read exactly if its result can be. -/
theorem Reply.ofNode?_of_rejects (decode? : Node → Option α)
    (h : Reply.Rejects members status error result?) :
    (IsReadable decode? result? →
      ∃ value?, Reply.ofNode? decode? (.object members) = some ⟨status, error, value?⟩) ∧
    (¬ IsReadable decode? result? → Reply.ofNode? decode? (.object members) = none) := by
  obtain ⟨fields, hfields, hfind⟩ := Node.fields?_object h.isPlain
  have hstatus : fields.text? "status" = some status := by
    rw [Fields.text?, Fields.get?, hfind "status" (by simp), h.under_status]
    rfl
  have herror : fields.text? "error" = some error := by
    rw [Fields.text?, Fields.get?, hfind "error" (by simp), h.under_error]
    rfl
  have hresult : fields.find? "result" = result? := by
    rw [hfind "result" (by simp), h.under_result, Option.head?_toList]
  rw [← hresult, ← isSome_get?_nullable "result", Reply.ofNode?, hfields]
  simp only [Bind.bind, Option.bind_some, hstatus, herror]
  cases fields.get? "result" (Node.nullable? decode?) none with
  | none => exact ⟨fun hread => absurd hread Bool.false_ne_true, fun _ => rfl⟩
  | some value? => exact ⟨fun _ => ⟨value?, rfl⟩, fun hnot => absurd rfl hnot⟩

/-- An answer that rejects is told as a rejection exactly if its result can be read. -/
theorem readReply_of_rejects (decode? : Node → Option α) (default : α) (route : String)
    (answer : Answer) (body : Node.ofText? (Utf8.decodeLossy answer.body) = some (.object members))
    (h : Reply.Rejects members status error result?) :
    (IsReadable decode? result? →
      readReply decode? default route answer = .error (.rejected status error)) ∧
    (¬ IsReadable decode? result? →
      readReply decode? default route answer = .error (.undecodable route)) := by
  obtain ⟨hread, hunread⟩ := Reply.ofNode?_of_rejects decode? h
  rw [readReply, body, Option.bind_some]
  constructor
  · intro readable
    obtain ⟨value?, hreply⟩ := hread readable
    have hok : (⟨status, error, value?⟩ : Reply α).isOk = false := by
      simp [Reply.isOk, h.status_ne]
    rw [hreply]
    simp only [hok, Bool.false_eq_true, if_false]
  · intro unreadable
    rw [hunread unreadable]

/-! ### Calls that were answered -/

variable {base : BaseUrl} {e : Errand} {result : Except Error α}

/-- An attempt that was answered results in what the answer says. -/
theorem Link.Attempted.result_eq {log : Link.Log} (h : Attempted decode? default base e log result)
    {request : Request} {answer : Answer} (answered : ⟨.send request, .ok answer⟩ ∈ log) :
    result = readReply decode? default e.route answer :=
  (h.sent_of_mem answered).2

namespace Client

/-- A call that was answered results in what the answer says. -/
theorem Logged.result_eq {log : Log} (h : Logged (e.once decode? default base) log result)
    {request : Request} {answer : Answer} (answered : ⟨.link (.send request), .ok answer⟩ ∈ log) :
    result = readReply decode? default e.route answer := by
  -- an attempt that was refused was not answered
  have hrefused : ∀ {inner : Link.Log} {url : String},
      (e.once decode? default base).Branch inner (.error (.refused url)) →
      ⟨.link (.send request), .ok answer⟩ ∉ inner.map ofLink := by
    intro inner url only hmem
    have heq := (Link.branch_once_iff.mp only).result_eq (mem_map_ofLink hmem)
    have hwas : wasRefused (readReply decode? default e.route answer) = true := heq ▸ rfl
    rw [Link.wasRefused_readReply] at hwas
    cases hwas
  cases h with
  | once only => exact (Link.branch_once_iff.mp only).result_eq (mem_map_ofLink answered)
  | abandoned only cause =>
    rcases List.mem_append.mp answered with answered | answered
    · exact absurd answered (hrefused only)
    · cases List.mem_singleton.mp answered
  | again refused last =>
    rcases List.mem_append.mp answered with answered | answered
    · exact absurd answered (hrefused refused)
    · rcases List.mem_cons.mp answered with heq | answered
      · cases heq
      · exact (Link.branch_once_iff.mp last).result_eq (mem_map_ofLink answered)

theorem result_eq_readReply {c : Client} {mayRetry : Bool} {log : Log}
    (h : (e.run c decode? default mayRetry).Branch log result) {request : Request} {answer : Answer}
    (answered : ⟨.link (.send request), .ok answer⟩ ∈ log) :
    result = readReply decode? default e.route answer :=
  (logged_of_branch h).result_eq answered

end Client

end MeshControl.Daemon
