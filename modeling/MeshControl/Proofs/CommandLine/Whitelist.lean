import MeshControl.Host.Machine
import MeshControl.Proofs.Address.Display
import MeshControl.Proofs.CommandLine.Setting
import MeshControl.Proofs.Daemon.Recovery
import MeshControl.Proofs.Daemon.Signing

/-!
# Entries of the whitelist

An entry of the whitelist is added and removed by an address, which may be spelled in many ways on the
command line.  What is sent is its display, and that is a normal form: two spellings are sent alike
exactly if they are of one address.

* `canonicalAddress_eq_ok_iff`: what is accepted, and what is sent for it.
* `NamesEntry`: what a command that names an entry does, in any of its runs.
* `whitelist_by_value`: what is removed is what was added, by whatever spelling.
-/

namespace MeshControl.CommandLine

open Dialogue MeshControl.Address MeshControl.Daemon MeshControl.Http MeshControl.Text

namespace Setting

variable {s : Setting} {a b x y route : String} {log : Host.Log} {result : Except Trace Unit}

/-! ### Addresses in their canonical form -/

theorem canonicalAddress_eq_ok_iff :
    canonicalAddress a = .ok x ↔ ∃ ip, Canonical.ofText a = .ip ip ∧ x = ip.text := by
  simp only [ofText_eq_ip_iff, canonicalAddress, Ip.ofText?, toList_trimmed]
  cases Ip.ofChars? (trim a.toList) with
  | none => simp
  | some ip => simp [eq_comm]

/-- The texts that are accepted are those of bare addresses. -/
theorem exists_canonicalAddress_iff : (∃ x, canonicalAddress a = .ok x) ↔ IsIp a := by
  constructor
  · rintro ⟨x, hx⟩
    obtain ⟨ip, hip, _⟩ := canonicalAddress_eq_ok_iff.mp hx
    exact ⟨ip, hip⟩
  · rintro ⟨ip, hip⟩
    exact ⟨_, canonicalAddress_eq_ok_iff.mpr ⟨ip, hip, rfl⟩⟩

/-- What is no bare address is told as it was written. -/
theorem canonicalAddress_of_not (h : ¬IsIp a) : canonicalAddress a =
    .error ⟨a ++ " is not a valid address", ["invalid IP address syntax"]⟩ := by
  unfold canonicalAddress
  split
  · rename_i ip hip
    rw [Ip.ofText?, toList_trimmed] at hip
    exact absurd ⟨ip, ofText_eq_ip_iff.mpr hip⟩ h
  · rfl

/-- The canonical form is the display of what the text says. -/
theorem text_of_canonicalAddress (h : canonicalAddress a = .ok x) : (Canonical.ofText a).text = x := by
  obtain ⟨ip, hip, rfl⟩ := canonicalAddress_eq_ok_iff.mp h
  rw [hip]
  rfl

/-- **The canonical form is a text of the address** and its own canonical form. -/
theorem ofText_of_canonicalAddress (h : canonicalAddress a = .ok x) :
    Canonical.ofText x = Canonical.ofText a ∧ canonicalAddress x = .ok x := by
  have hvalue : Canonical.ofText x = Canonical.ofText a := text_of_canonicalAddress h ▸ ofText_text a
  obtain ⟨ip, hip, hx⟩ := canonicalAddress_eq_ok_iff.mp h
  exact ⟨hvalue, canonicalAddress_eq_ok_iff.mpr ⟨ip, hvalue.trans hip, hx⟩⟩

/-- Canonical forms are equal if and only if they are of one address. -/
theorem canonicalAddress_eq_iff (ha : canonicalAddress a = .ok x) (hb : canonicalAddress b = .ok y) :
    x = y ↔ same a b = true := by
  rw [same_iff_text, text_of_canonicalAddress ha, text_of_canonicalAddress hb]

/-! ### What is sent -/

/-- The entry that a request names, as it is read from its form. -/
def named? (request : Request) : Option String :=
  (Form.decode request.body.text).lookup "address"

/-- What is sent by a call that posts fields to a route. -/
structure Posting (s : Setting) (route : String) (fields : List (String × String)) (log : Host.Log)
    (outcome : Except Daemon.Error Unit) : Prop where
  posts : ∀ request told, ⟨.send request, told⟩ ∈ log → request.method = .post →
    Url.read (s.access.base.route route) = .ok request.url ∧ ∃ secret, Posts fields secret request
  answered : outcome = .ok () →
    ∃ request answer, ⟨.send request, .ok answer⟩ ∈ log ∧ request.method = .post
  unsent : (∀ request told, ⟨.send request, told⟩ ∉ log) →
    (∃ cause, outcome = .error (.secret cause)) ∨
      ∀ url, Url.read (s.access.base.route route) = .ok url → url.refusal?.isSome = true

theorem posting_of_branch {fields : List (String × String)} {outcome : Except Daemon.Error Unit}
    (h : (s.access.callOnHost s.recovery
      (s.client.post ignored? () route fields true)).Branch log outcome) :
    s.Posting route fields log outcome := by
  obtain ⟨calls, hcalls, hspelled⟩ := branch_answerWith_iff.mp h
  have hlogged := Client.logged_of_branch (e := .post route fields) hcalls
  refine ⟨?_, ?_, ?_⟩
  · intro request told hmem hpost
    exact hlogged.posts_of_mem (Recovery.mem_link_of_mem_post hspelled hmem hpost)
  · intro hok
    obtain ⟨request, answer, hmem⟩ := hlogged.exists_answer hok
    obtain ⟨_, _, hposts⟩ := hlogged.posts_of_mem hmem
    exact ⟨request, answer, mem_send_of_mem_link hspelled hmem, hposts.isPost⟩
  · intro hnone
    obtain ⟨inner, hinner, hinnerNone⟩ := hlogged.exists_unsent fun request told hmem =>
      hnone request told (mem_send_of_mem_link hspelled hmem)
    refine ((Link.branch_once_iff.mp hinner).unsent hinnerNone).imp_right ?_
    rintro ⟨before, failure, prepared⟩ url hread
    cases prepared with
    | post route fields secret build => exact Link.refusal_of_build build hread

/-- What a command does that names an entry by a spelling. -/
structure NamesEntry (s : Setting) (route spelling : String) (log : Host.Log)
    (result : Except Trace Unit) : Prop where
  /-- All that is posted goes to the route and carries the canonical form, and behind it a secret. -/
  posts : ∀ request told, ⟨.send request, told⟩ ∈ log → request.method = .post →
    Url.read (s.access.base.route route) = .ok request.url ∧
      ∃ x secret, canonicalAddress spelling = .ok x ∧ Posts [("address", x)] secret request
  /-- The command succeeds only if such a request was answered. -/
  answered : result = .ok () →
    ∃ request answer, ⟨.send request, .ok answer⟩ ∈ log ∧ request.method = .post
  /-- If nothing is sent for a bare address, then for want of a secret, or because no request goes to
  the daemon at all. -/
  unsent : IsIp spelling → (∀ request told, ⟨.send request, told⟩ ∉ log) →
    (∃ cause, result = .error (Daemon.Error.secret cause).trace) ∨
      ∀ url, Url.read (s.access.base.route route) = .ok url → url.refusal?.isSome = true
  /-- What is no bare address is an error, for which nothing at all is asked. -/
  silent : ¬IsIp spelling → log = [] ∧
    result = .error ⟨spelling ++ " is not a valid address", ["invalid IP address syntax"]⟩

/-- A command that posts the canonical form of a spelling, and then tells of it. -/
def postEntry (s : Setting) (route : String) (told : String → String) (spelling : String) :
    Running Unit := do
  let address ← ExceptT.mk (return canonicalAddress spelling)
  s.post Daemon.Error.trace route [("address", address)]
  succeed (told address)

theorem namesEntry_of_branch (told : String → String)
    (h : (s.postEntry route told a).run.Branch log result) : s.NamesEntry route a log result := by
  obtain ⟨e, hrefused, rfl⟩ | ⟨first, x, rest, haccepted, hpost, rfl⟩ := branch_run_bind_iff.mp h
  · obtain ⟨rfl, herror⟩ := branch_done_iff.mp hrefused
    have hnot : ¬IsIp a := by
      intro hip
      obtain ⟨x, hx⟩ := exists_canonicalAddress_iff.mpr hip
      cases herror.trans hx
    refine ⟨fun _ _ hmem => absurd hmem List.not_mem_nil, nofun, fun hip => absurd hip hnot,
      fun _ => ⟨rfl, ?_⟩⟩
    cases herror.trans (canonicalAddress_of_not hnot)
    rfl
  · obtain ⟨rfl, hx⟩ := branch_done_iff.mp haccepted
    obtain ⟨calls, last, outcome, rfl, hlast, hcall, rfl⟩ := exists_part hpost
    have hposting := posting_of_branch hcall
    rw [List.nil_append]
    refine ⟨?_, ?_, ?_, ?_⟩
    · intro request told hmem hmethod
      have hsent := (List.mem_append.mp hmem).resolve_right (hlast request told)
      obtain ⟨hurl, secret, hform⟩ := hposting.posts request told hsent hmethod
      exact ⟨hurl, x, secret, hx.symm, hform⟩
    · intro hok
      have houtcome : outcome = .ok () := by
        cases outcome with
        | error e => cases hok
        | ok _ => rfl
      obtain ⟨request, answer, hmem, hmethod⟩ := hposting.answered houtcome
      exact ⟨request, answer, List.mem_append_left last hmem, hmethod⟩
    · intro _ hnone
      have hsilent := hposting.unsent fun request told hmem =>
        hnone request told (List.mem_append_left last hmem)
      refine hsilent.imp_left ?_
      rintro ⟨cause, rfl⟩
      exact ⟨cause, rfl⟩
    · intro hnot
      exact absurd (exists_canonicalAddress_iff.mp ⟨x, hx.symm⟩) hnot

/-- The command that adds an entry posts the canonical form of its address. -/
theorem namesEntry_add (h : (s.run (.whitelist (.add a))).run.Branch log result) :
    s.NamesEntry "/api/whitelist/add" a log result :=
  namesEntry_of_branch (fun address => "Added " ++ Terminal.bold address ++ " to whitelist") h

/-- The command that removes an entry posts the canonical form of its address. -/
theorem namesEntry_remove (h : (s.run (.whitelist (.remove a))).run.Branch log result) :
    s.NamesEntry "/api/whitelist/rm" a log result :=
  namesEntry_of_branch (fun address => "Removed " ++ Terminal.bold address ++ " from whitelist") h

theorem named?_of_posts {secret : Secret} {request : Request}
    (h : Posts [("address", x)] secret request) : named? request = some x := by
  rw [named?, h.decode_eq]
  rfl

/-- Requests that were sent for two spellings name one entry if and only if these are of one
address. -/
theorem NamesEntry.named?_eq_iff {t : Setting} {other : String} {log' : Host.Log}
    {result' : Except Trace Unit} (h : s.NamesEntry route a log result)
    (h' : t.NamesEntry other b log' result') {asked given : Request}
    {told told' : Except Failure Answer} (hasked : ⟨.send asked, told⟩ ∈ log)
    (hgiven : ⟨.send given, told'⟩ ∈ log') (hpost : asked.method = .post)
    (hpost' : given.method = .post) : named? asked = named? given ↔ same a b = true := by
  obtain ⟨_, x, _, hx, hasks⟩ := h.posts asked told hasked hpost
  obtain ⟨_, y, _, hy, hgives⟩ := h'.posts given told' hgiven hpost'
  rw [named?_of_posts hasks, named?_of_posts hgives, Option.some.injEq]
  exact canonicalAddress_eq_iff hx hy

end Setting

open Setting

/-- **What is removed is what was added, by whatever spelling.** The display of what a text says is a
normal form of the text, so texts are one address if and only if they are displayed alike.  The
canonical form of a bare address is its display: a text of the address, which is its own canonical
form, and the same for two spellings if and only if they are of one address.

A command that adds or removes an entry posts this form and nothing else, unless there is no secret or
no request goes to the daemon.  So the entries that two such commands name are the same if and only if
the addresses are, however they were spelled; and for what is no bare address nothing is sent. -/
theorem whitelist_by_value :
    (∀ a, Canonical.ofText (Canonical.ofText a).text = Canonical.ofText a) ∧
    (∀ a b, same a b = true ↔ (Canonical.ofText a).text = (Canonical.ofText b).text) ∧
    (∀ a, (∃ x, canonicalAddress a = .ok x) ↔ IsIp a) ∧
    (∀ a x, canonicalAddress a = .ok x → canonicalAddress x = .ok x ∧ same a x = true) ∧
    (∀ a b x y, canonicalAddress a = .ok x → canonicalAddress b = .ok y →
      (x = y ↔ same a b = true)) ∧
    (∀ (s : Setting) (a : String) (log : Host.Log) (result : Except Trace Unit),
      ((s.run (.whitelist (.add a))).run.Branch log result →
        s.NamesEntry "/api/whitelist/add" a log result) ∧
      ((s.run (.whitelist (.remove a))).run.Branch log result →
        s.NamesEntry "/api/whitelist/rm" a log result)) ∧
    (∀ (s t : Setting) (a b : String) (added removed : Host.Log) (result result' : Except Trace Unit),
      (s.run (.whitelist (.add a))).run.Branch added result →
      (t.run (.whitelist (.remove b))).run.Branch removed result' →
      ∀ asked told given told', ⟨.send asked, told⟩ ∈ added → asked.method = .post →
        ⟨.send given, told'⟩ ∈ removed → given.method = .post →
        (named? asked = named? given ↔ same a b = true)) := by
  refine ⟨ofText_text, fun a b => same_iff_text, fun a => exists_canonicalAddress_iff, ?_,
    fun a b x y => canonicalAddress_eq_iff, fun s a log result => ⟨namesEntry_add, namesEntry_remove⟩,
    ?_⟩
  · intro a x h
    obtain ⟨hvalue, hself⟩ := ofText_of_canonicalAddress h
    exact ⟨hself, same_iff.mpr hvalue.symm⟩
  · intro s t a b added removed result result' hadd hremove asked told given told' hasked hpost hgiven
      hpost'
    exact (namesEntry_add hadd).named?_eq_iff (namesEntry_remove hremove) hasked hgiven hpost hpost'

/-! ### An entry that is spelled in two ways -/

/-- A machine whose daemon answers with success. -/
def obligingMachine : Host.Machine where
  network := { answers := [.ok ⟨200, Utf8.encode "\x7b\"status\":\"success\"\x7d"⟩] }

/-- The result and the log of a command on that machine. -/
def whitelistRun (command : WhitelistCommand) : Except Trace Unit × Host.Log :=
  let (result, _, log) :=
    (plainSetting.run (.whitelist command)).run.runLogged Host.Machine.answer obligingMachine
  (result, log)

/-- One entry is added and removed, by a spelling in hexadecimal digits and by one that ends in decimal
digits; for an address with a port nothing is sent. -/
theorem whitelist_by_value_mapped :
    (∃ asked told given told',
      ⟨.send asked, .ok told⟩ ∈ (whitelistRun (.add " ::FFFF:102:304")).2 ∧
      ⟨.send given, .ok told'⟩ ∈ (whitelistRun (.remove "0:0:0:0:0:ffff:1.2.3.4")).2 ∧
      named? asked = some "::ffff:1.2.3.4" ∧ named? asked = named? given) ∧
    (whitelistRun (.add "[::1]:80")).2 = [] := by
  have hadded : (whitelistRun (.add " ::FFFF:102:304")).1 = .ok () := by decide +kernel
  have hremoved : (whitelistRun (.remove "0:0:0:0:0:ffff:1.2.3.4")).1 = .ok () := by decide +kernel
  have hcanonical : canonicalAddress " ::FFFF:102:304" = .ok "::ffff:1.2.3.4" := by decide +kernel
  have hsame : same " ::FFFF:102:304" "0:0:0:0:0:ffff:1.2.3.4" = true := by decide +kernel
  have hport : ¬IsIp "[::1]:80" := by
    rintro ⟨ip, hip⟩
    have hread : Ip.ofText? "[::1]:80" = none := by decide +kernel
    cases (ofText_eq_ip_iff.mp hip).symm.trans hread
  obtain ⟨_, _, _, _, _, hnames, hiff⟩ := whitelist_by_value
  have hrun : ∀ command, (plainSetting.run (.whitelist command)).run.Branch
      (whitelistRun command).2 (whitelistRun command).1 :=
    fun command => branch_runLogged Host.Machine.answer _ obligingMachine
  have hadd := (hnames plainSetting _ _ _).1 (hrun (.add " ::FFFF:102:304"))
  have hremove := (hnames plainSetting _ _ _).2 (hrun (.remove "0:0:0:0:0:ffff:1.2.3.4"))
  obtain ⟨asked, told, hasked, hpost⟩ := hadd.answered hadded
  obtain ⟨given, told', hgiven, hpost'⟩ := hremove.answered hremoved
  obtain ⟨_, x, secret, hx, hasks⟩ := hadd.posts _ _ hasked hpost
  cases hx.symm.trans hcanonical
  refine ⟨⟨asked, told, given, told', hasked, hgiven, named?_of_posts hasks, ?_⟩, ?_⟩
  · exact (hiff _ _ _ _ _ _ _ _ (hrun _) (hrun _) _ _ _ _ hasked hpost hgiven hpost').mpr hsame
  · exact (((hnames plainSetting _ _ _).1 (hrun (.add "[::1]:80"))).silent hport).1

end MeshControl.CommandLine
