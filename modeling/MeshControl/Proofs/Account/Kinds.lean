import MeshControl.Account.Server
import MeshControl.Proofs.Dialogue.Branch
import MeshControl.Proofs.Text.Casing
import MeshControl.Proofs.Text.Search
import MeshControl.Proofs.Text.Utf8

/-!
# What several errors say about a session

The account server may answer with several errors, whose messages are told as one text.  What that
text says about the session is what its messages say one by one: the text between two messages ends
a word, so each message has its own small form (`lowered_intercalate`), and none of the words that
are looked for reaches from one message into the next (`infix_intercalate_iff`).

So the order of the messages plays no part, and neither do messages that say nothing about the
session (`errors_sorted_singly`).
-/

namespace MeshControl.Account

open Dialogue MeshControl.Http MeshControl.Json MeshControl.Text

variable {α : Type} {messages : List String} {words : String}

/-- Whether a message has some words in it, in any case of letters. -/
def Says (message words : String) : Prop :=
  contains (lowered message) words = true

/-! ### Messages that are told as one -/

theorem isBreak_separator : ∀ b ∈ "; ".toList, IsBreak b := by
  intro b hb
  have hcases : b = ';' ∨ b = ' ' := by simpa using hb
  rcases hcases with rfl | rfl
  · exact ⟨by decide +kernel, by decide +kernel⟩
  · exact ⟨by decide +kernel, by decide +kernel⟩

theorem lowered_joined (messages : List String) :
    lowered ("; ".intercalate messages) = "; ".intercalate (messages.map lowered) := by
  have hsmall : String.ofList ("; ".toList.flatMap lower) = "; " := by decide +kernel
  rw [lowered_intercalate (by simp) isBreak_separator, hsmall]

/-- Words that could not reach across a separator. -/
structure IsPhrase (words : String) : Prop where
  notMem : ';' ∉ words.toList
  ne_nil : words.toList ≠ []
  head : ∀ c ∈ words.toList.head?, c ∉ [' ']

/-- **One message says it.** Joined messages say some words if and only if one of them does. -/
theorem says_joined_iff (h : IsPhrase words) :
    Says ("; ".intercalate messages) words ↔ ∃ m ∈ messages, Says m words := by
  have hparts := infix_intercalate_iff h.notMem h.ne_nil h.head
    ((messages.map lowered).map String.toList)
  unfold Says
  simp only [contains_iff]
  rw [lowered_joined, String.toList_intercalate]
  refine Iff.trans hparts ?_
  simp

theorem isPhrase_expired : IsPhrase "signature has expired" :=
  ⟨by decide, by decide, by simp⟩

theorem isPhrase_errorDecoding : IsPhrase "error decoding signature" :=
  ⟨by decide, by decide, by simp⟩

theorem isPhrase_decodingError : IsPhrase "signature decoding error" :=
  ⟨by decide, by decide, by simp⟩

namespace Error

/-! ### What a text says about the session -/

theorem kind_server (url m : String) : (Error.server url m).kind = kindOfMessage m := rfl

theorem kindOfMessage_eq_expired_iff {m : String} :
    kindOfMessage m = .expired ↔ Says m "signature has expired" := by
  unfold kindOfMessage Says
  dsimp only
  split_ifs with hexpired hinvalid <;> simp [hexpired]

theorem kindOfMessage_eq_invalid_iff {m : String} :
    kindOfMessage m = .invalid ↔ ¬Says m "signature has expired" ∧
      (Says m "error decoding signature" ∨ Says m "signature decoding error") := by
  unfold kindOfMessage Says
  dsimp only
  split_ifs with hexpired hinvalid
  · simp [hexpired]
  · exact iff_of_true rfl ⟨hexpired, (Bool.or_eq_true _ _).mp hinvalid⟩
  · simpa [hexpired] using hinvalid

theorem kindOfMessage_eq_other_iff {m : String} :
    kindOfMessage m = .other ↔ ¬Says m "signature has expired" ∧
      ¬Says m "error decoding signature" ∧ ¬Says m "signature decoding error" := by
  unfold kindOfMessage Says
  dsimp only
  split_ifs with hexpired hinvalid
  · simp [hexpired]
  · have hwords := (Bool.or_eq_true _ _).mp hinvalid
    exact iff_of_false nofun fun ⟨_, hfirst, hsecond⟩ => hwords.elim hfirst hsecond
  · simpa [hexpired] using hinvalid

theorem kindOfMessage_joined_eq_expired_iff :
    kindOfMessage ("; ".intercalate messages) = .expired ↔
      ∃ m ∈ messages, Says m "signature has expired" := by
  rw [kindOfMessage_eq_expired_iff, says_joined_iff isPhrase_expired]

theorem kindOfMessage_joined_eq_invalid_iff :
    kindOfMessage ("; ".intercalate messages) = .invalid ↔
      (∀ m ∈ messages, ¬Says m "signature has expired") ∧
        ∃ m ∈ messages, Says m "error decoding signature" ∨ Says m "signature decoding error" := by
  rw [kindOfMessage_eq_invalid_iff, says_joined_iff isPhrase_expired,
    says_joined_iff isPhrase_errorDecoding, says_joined_iff isPhrase_decodingError,
    ← exists_or]
  simp only [not_exists, not_and, ← and_or_left]

theorem kindOfMessage_joined_eq_other_iff :
    kindOfMessage ("; ".intercalate messages) = .other ↔
      ∀ m ∈ messages, kindOfMessage m = .other := by
  simp only [kindOfMessage_eq_other_iff, says_joined_iff isPhrase_expired,
    says_joined_iff isPhrase_errorDecoding, says_joined_iff isPhrase_decodingError,
    not_exists, not_and, ← forall_and]

/-- Messages that say nothing about the session do not matter, nor does the order. -/
theorem kindOfMessage_joined_congr {others : List String} (hsub : messages ⊆ others)
    (hothers : ∀ m ∈ others, m ∉ messages → kindOfMessage m = .other) :
    kindOfMessage ("; ".intercalate others) = kindOfMessage ("; ".intercalate messages) := by
  cases hkind : kindOfMessage ("; ".intercalate messages) with
  | expired =>
    obtain ⟨m, hm, hsays⟩ := kindOfMessage_joined_eq_expired_iff.mp hkind
    exact kindOfMessage_joined_eq_expired_iff.mpr ⟨m, hsub hm, hsays⟩
  | invalid =>
    obtain ⟨hnone, m, hm, hsays⟩ := kindOfMessage_joined_eq_invalid_iff.mp hkind
    refine kindOfMessage_joined_eq_invalid_iff.mpr ⟨fun x hx => ?_, m, hsub hm, hsays⟩
    by_cases hmem : x ∈ messages
    · exact hnone x hmem
    · exact (kindOfMessage_eq_other_iff.mp (hothers x hx hmem)).1
  | other =>
    have hall := kindOfMessage_joined_eq_other_iff.mp hkind
    refine kindOfMessage_joined_eq_other_iff.mpr fun x hx => ?_
    by_cases hmem : x ∈ messages
    · exact hall x hmem
    · exact hothers x hx hmem

end Error

namespace Server

variable {s : Server} {decode? : Node → Option α} {answer : Answer} {reply : Reply α}

/-- What was answered is read. -/
theorem result_of_post {token? : Option String} {document : String} {arguments : Value}
    {log : List (Exchange Host.Call Host.Call.Answer)} {result : Except Error α} {asked : Request}
    (h : (s.post token? document arguments decode?).Branch log result)
    (answered : ⟨.send asked, .ok answer⟩ ∈ log) : result = s.readAnswer decode? answer := by
  unfold post at h
  split at h
  · obtain ⟨rfl, _⟩ := branch_done_iff.mp h
    cases answered
  · obtain ⟨first, given, rest, hsend, hrest, rfl⟩ := branch_bind_iff.mp h
    obtain rfl := branch_query_iff.mp hsend
    cases given with
    | error failure =>
      obtain ⟨rfl, _⟩ := branch_done_iff.mp hrest
      cases List.mem_singleton.mp answered
    | ok given =>
      obtain ⟨rfl, rfl⟩ := branch_done_iff.mp hrest
      cases List.mem_singleton.mp answered
      rfl

/-- An answer with errors is the error of all their messages. -/
theorem readAnswer_of_errors
    (hreply :
      (Node.ofText? (Utf8.decodeLossy answer.body)).bind (Reply.ofNode? decode?) = some reply)
    (herrors : reply.errors ≠ []) :
    s.readAnswer decode? answer = .error (.server s.url ("; ".intercalate reply.errors)) := by
  have hnot : reply.errors.isEmpty = false := by simpa using herrors
  rw [readAnswer, hreply]
  simp only [Reply.errorText?, hnot]
  rfl

/-- **Errors are sorted one by one.** An answer with errors is told as one error with all their
messages.  That error says that the session has expired if and only if one message says so by
itself, and that it is invalid if and only if no message says that it has expired and one says by
itself that its signature cannot be decoded; otherwise it says nothing about the session.

So a login is called for if and only if one of the messages calls for it, and messages that are put
in another order, are repeated, or say nothing about the session change nothing. -/
theorem errors_sorted_singly (s : Server) (decode? : Node → Option α) (answer : Answer)
    (reply : Reply α)
    (hreply :
      (Node.ofText? (Utf8.decodeLossy answer.body)).bind (Reply.ofNode? decode?) = some reply)
    (herrors : reply.errors ≠ []) :
    ∃ e, e = .server s.url ("; ".intercalate reply.errors) ∧
      (∀ token? document arguments log result asked,
        (s.post token? document arguments decode?).Branch log result →
        ⟨.send asked, .ok answer⟩ ∈ log → result = .error e) ∧
      (e.kind = .expired ↔ ∃ m ∈ reply.errors, Says m "signature has expired") ∧
      (e.kind = .invalid ↔ (¬∃ m ∈ reply.errors, Says m "signature has expired") ∧
        ∃ m ∈ reply.errors, Says m "error decoding signature" ∨ Says m "signature decoding error") ∧
      (e.kind = .other ↔ (¬∃ m ∈ reply.errors, Says m "signature has expired") ∧
        ¬∃ m ∈ reply.errors,
          Says m "error decoding signature" ∨ Says m "signature decoding error") ∧
      (e.kind = .other ↔ ∀ m ∈ reply.errors, (Error.server s.url m).kind = .other) ∧
      ∀ others, reply.errors ⊆ others →
        (∀ m ∈ others, m ∉ reply.errors → (Error.server s.url m).kind = .other) →
        (Error.server s.url ("; ".intercalate others)).kind = e.kind := by
  refine ⟨_, rfl, ?_, ?_⟩
  · intro token? document arguments log result asked h answered
    rw [result_of_post h answered, readAnswer_of_errors hreply herrors]
  simp only [Error.kind_server]
  refine ⟨Error.kindOfMessage_joined_eq_expired_iff, ?_, ?_,
    Error.kindOfMessage_joined_eq_other_iff, fun others => Error.kindOfMessage_joined_congr⟩
  · refine Error.kindOfMessage_joined_eq_invalid_iff.trans ?_
    simp only [not_exists, not_and]
  · refine Error.kindOfMessage_joined_eq_other_iff.trans ?_
    simp only [Error.kindOfMessage_eq_other_iff]
    grind

/-- A body with two errors, the second of which says that the session has expired. -/
def expiredText : String :=
  "\x7b\"errors\":[\x7b\"message\":\"ΛΑΘΟΣ\"\x7d,\x7b\"message\":\"Signature HAS expired\"\x7d]\x7d"

/-- The second of two errors calls for a login, and would do so in front of the first one. -/
theorem errors_sorted_singly_expired :
    (∃ reply, (Node.ofText? (Utf8.decodeLossy (Utf8.encode expiredText))).bind
        (Reply.ofNode? refreshedTokenOfNode?) = some reply ∧ reply.errors ≠ []) ∧
      (Error.server "u" "ΛΑΘΟΣ; Signature HAS expired").kind = .expired ∧
      (Error.server "u" "Signature HAS expired; ΛΑΘΟΣ; ΛΑΘΟΣ").kind = .expired := by
  have hbody : ((Node.ofText? (Utf8.decodeLossy (Utf8.encode expiredText))).bind
      (Reply.ofNode? refreshedTokenOfNode?)).map (·.errors) =
        some ["ΛΑΘΟΣ", "Signature HAS expired"] := by
    rw [Utf8.decodeLossy_encode]
    decide +kernel
  obtain ⟨reply, hreply, herrors⟩ := Option.map_eq_some_iff.mp hbody
  have hne : reply.errors ≠ [] := by
    rw [herrors]
    exact List.cons_ne_nil _ _
  obtain ⟨e, rfl, _, hexpired, _, _, _, hothers⟩ :=
    errors_sorted_singly ⟨"u"⟩ refreshedTokenOfNode? ⟨401, Utf8.encode expiredText⟩ reply hreply hne
  rw [herrors] at hexpired hothers
  have hsays : Says "Signature HAS expired" "signature has expired" := by
    unfold Says
    decide +kernel
  have hkind := hexpired.mpr ⟨_, by simp, hsays⟩
  refine ⟨⟨reply, hreply, hne⟩, hkind, ?_⟩
  rw [← hkind]
  exact hothers ["Signature HAS expired", "ΛΑΘΟΣ", "ΛΑΘΟΣ"] (by simp) (by simp)

end Server

end MeshControl.Account
