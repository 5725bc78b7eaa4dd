import MeshControl.Host.Machine
import MeshControl.Proofs.CommandLine.Refusal
import MeshControl.Proofs.CommandLine.Setting
import MeshControl.Proofs.Dashboard.Naming
import MeshControl.Proofs.Dashboard.OnMachine

/-!
# Nothing guarded by a question happens without a yes

Three questions guard what a command does: before this device is given up, before another device is
given up, and before a daemon that refused a call is brought back up.  `AsksFirst` says of the log of a
run that what a question guards stands behind a yes to it, and that without the yes the run fails with
nothing of it done; and that where nobody is to be asked nothing is read from the user.

Every run of every command keeps to this (`asksFirst_run`), and so does the program whatever its
surroundings answer (`program_asks_first`), with the setting that file, environment and command line
come to.
-/

namespace MeshControl.CommandLine

open Dialogue MeshControl.Daemon MeshControl.Host MeshControl.Http
open MeshControl.Dashboard (IsForwarded Operation forwarded_of_get forwarded_of_perform)

namespace Setting

variable {s : Setting}

/-! ### Giving devices up -/

theorem atMost_confirm (s : Setting) (question : String) :
    AtMost isSend 0 (s.confirm question).run := by
  refine AtMost.run_bind_free ?_ fun isYes => ?_
  · exact (atMost_confirmUnless ofSends_isSend _ _).bind_free fun _ => atMost_done _
  · cases isYes with
    | true => exact atMost_done _
    | false => exact atMost_done _

/-- To go on behind a question takes a yes. -/
theorem guarded_confirm (s : Setting) (question : String) :
    Guarded (Approved s.config.nonInteractive question) (fun x => isSend x = true)
      (s.confirm question).run where
  minds := fun _ _ h =>
    behind_of_idle fun x hx => Bool.eq_false_iff.mp ((s.atMost_confirm question).eq_false h x hx)
  granted_of_ok := by
    intro log value h
    obtain ⟨e, _, hok⟩ | ⟨first, isYes, rest, hfirst, hrest, rfl⟩ := branch_run_bind_iff.mp h
    · cases hok
    · obtain ⟨answer, hasked, hanswer⟩ := branch_attempt_iff.mp hfirst
      rcases answer with cause | answer
      · cases hanswer
      · cases hanswer
        cases isYes with
        | false => cases (branch_done_iff.mp hrest).2
        | true => exact (lasting_approved _ _).append (approved_of_branch hasked)

theorem guarded_unclaim (s : Setting) :
    Guarded (Approved s.config.nonInteractive unclaimQuestion) (fun x => isSend x = true)
      s.unclaim.run :=
  (s.guarded_confirm unclaimQuestion).run_bind (lasting_approved _ _)

theorem atMost_always_print (text : String) : AtMost isSend 0 (always (Host.print text)).run :=
  AtMost.run_liftM (atMost_query fun _ => rfl)

/-- What is sent when an operation is carried out behind a question, and its result is shown, is the
request of the operation. -/
theorem forwarded_of_branch (op : Operation) (hbody : op.body? = none) {question : String}
    {tell : String → Running Unit} (htell : ∀ text, AtMost isSend 0 (tell text).run)
    {log : Log} {result : Except Trace Unit}
    (h : (s.confirm question >>= fun _ =>
      s.askDashboard (op.run s.access.base) >>= tell).run.Branch log result) :
    ∀ x ∈ log, isSend x = true → IsForwarded s.access.base op.method op.endpoint x := by
  intro x hx hsend
  obtain ⟨e, hconfirm, _⟩ | ⟨asked, _, rest, hconfirm, hrest, rfl⟩ := branch_run_bind_iff.mp h
  · cases ((s.atMost_confirm question).eq_false hconfirm x hx).symm.trans hsend
  · rcases List.mem_append.mp hx with hx | hx
    · cases ((s.atMost_confirm question).eq_false hconfirm x hx).symm.trans hsend
    · obtain ⟨e, hop, _⟩ | ⟨first, text, last, hop, hlast, rfl⟩ := branch_run_bind_iff.mp hrest
      · obtain ⟨_, hop, _⟩ := branch_attempt_iff.mp hop
        exact forwarded_of_perform hbody hop x hx hsend
      · obtain ⟨_, hop, _⟩ := branch_attempt_iff.mp hop
        rcases List.mem_append.mp hx with hx | hx
        · exact forwarded_of_perform hbody hop x hx hsend
        · cases ((htell text).eq_false hlast x hx).symm.trans hsend

/-- Finding a device asks for the list of devices, at the most. -/
theorem forwarded_of_resolve {device : String} {log : Log} {result : Except Trace String}
    (h : (s.askDashboard (Dashboard.resolveDeviceId s.access.base device)).run.Branch log result) :
    log.countP isSend ≤ 1 ∧
      ∀ x ∈ log, isSend x = true → IsForwarded s.access.base .get "/web/devices" x := by
  obtain ⟨outcome, hlog, _⟩ := branch_attempt_iff.mp h
  rw [Dashboard.resolveDeviceId_eq] at hlog
  exact forwarded_of_get hlog

/-- A request for the list of devices. -/
abbrev IsDeviceList (s : Setting) (x : Exchange Host.Call Host.Call.Answer) : Prop :=
  IsForwarded s.access.base .get "/web/devices" x

theorem guarded_unclaimDevice (s : Setting) (device : String) :
    Guarded (Approved s.config.nonInteractive (unclaimDeviceQuestion device))
      (fun x => isSend x = true ∧ ¬s.IsDeviceList x) (s.runDashboard (.unclaimDevice device)).run := by
  have hg := lasting_approved s.config.nonInteractive (unclaimDeviceQuestion device)
  refine Minds.run_bind_guarded hg ?_ fun id => ?_
  · intro log result h
    refine behind_of_idle fun x hx => ?_
    rintro ⟨hsend, hother⟩
    exact hother ((forwarded_of_resolve h).2 x hx hsend)
  · exact ((s.guarded_confirm _).run_bind hg).restrict fun _ => And.left

section UnclaimDevice

variable {device : String} {log : Log} {result : Except Trace Unit}

/-- What is sent before and behind the question. -/
theorem forwarded_of_unclaimDevice
    (h : (s.runDashboard (.unclaimDevice device)).run.Branch log result) :
    ∀ x ∈ log, isSend x = true → s.IsDeviceList x ∨
      ∃ id, IsForwarded s.access.base .post ("/web/devices/unclaim/" ++ id) x := by
  intro x hx hsend
  obtain ⟨e, hresolve, _⟩ | ⟨first, id, rest, hresolve, hrest, rfl⟩ := branch_run_bind_iff.mp h
  · exact .inl ((forwarded_of_resolve hresolve).2 x hx hsend)
  · rcases List.mem_append.mp hx with hx | hx
    · exact .inl ((forwarded_of_resolve hresolve).2 x hx hsend)
    · refine .inr ⟨id, ?_⟩
      exact forwarded_of_branch (.unclaimDevice id) rfl (fun _ => atMost_always_print _) hrest x hx
        hsend

/-- Without a yes nothing is sent behind the question. -/
theorem countP_isSend_of_unclaimDevice
    (h : (s.runDashboard (.unclaimDevice device)).run.Branch log result)
    (hnot : ¬Approved s.config.nonInteractive (unclaimDeviceQuestion device) log) :
    log.countP isSend ≤ 1 := by
  have hg := lasting_approved s.config.nonInteractive (unclaimDeviceQuestion device)
  obtain ⟨e, hresolve, _⟩ | ⟨first, id, rest, hresolve, hrest, rfl⟩ := branch_run_bind_iff.mp h
  · exact (forwarded_of_resolve hresolve).1
  · have hkept := ((s.guarded_confirm _).run_bind hg).kept hg hrest
    have hnone := (hkept.without fun hyes => hnot (hg.prepend hyes)).2
    rw [List.countP_append, List.countP_eq_zero.mpr hnone]
    exact (forwarded_of_resolve hresolve).1

end UnclaimDevice

/-! ### The laws of a run -/

/-- The laws of the questions that guard what a command does, on the log of a run and whether it
failed. -/
structure AsksFirst (s : Setting) (command : Command) (failed : Prop) (log : Log) : Prop where
  /-- Where nobody is to be asked nothing is read from the user. -/
  mute : s.config.nonInteractive = true → ∀ x ∈ log, isReading x = false
  /-- This device is given up behind a yes; without it nothing is sent. -/
  unclaim : command = .unclaim →
    Kept (Approved s.config.nonInteractive unclaimQuestion) (fun x => isSend x = true) failed log ∧
      ∀ x ∈ log, isSend x = true → IsForwarded s.access.base .post "/device/manage/unclaim" x
  /-- A device is given up behind a yes; without it nothing is sent but one request for the list of
  devices. -/
  unclaimDevice : ∀ device, command = .dashboard (.unclaimDevice device) →
    Kept (Approved s.config.nonInteractive (unclaimDeviceQuestion device))
        (fun x => isSend x = true ∧ ¬s.IsDeviceList x) failed log ∧
      (¬Approved s.config.nonInteractive (unclaimDeviceQuestion device) log →
        log.countP isSend ≤ 1) ∧
      ∀ x ∈ log, isSend x = true → s.IsDeviceList x ∨
        ∃ id, IsForwarded s.access.base .post ("/web/devices/unclaim/" ++ id) x
  /-- If nobody listens to the first request of a command that may bring the daemon back up, then
  whatever is sent, run or written from there on is behind a yes under a policy that does not rule it
  out; without that there is nothing of it, and the command fails. -/
  refusal : command.mayRecover = true → ∀ before request after,
    log = before ++ ⟨.send request, .error .refused⟩ :: after → (∀ x ∈ before, isSend x = false) →
      Kept s.Allowed (fun x => isChange x = true) failed after
  /-- A command that is not about the service runs programs on the terminal to bring the daemon back
  up, and only behind such a yes, or to restart the service once the daemon was pointed to another
  dashboard. -/
  programs : (∀ command', command ≠ .service command') →
    Behind (fun log => s.Allowed log ∨ (∃ domain, command = .changeServer domain) ∧ Answered log)
      (fun x => isAttach x = true) log

theorem lasting_allowed_or (s : Setting) (command : Command) : Lasting fun log =>
    s.Allowed log ∨ (∃ domain, command = .changeServer domain) ∧ Answered log :=
  (Recovery.lasting_allowed _).or
    ⟨And.imp_right lasting_answered.prepend, And.imp_right lasting_answered.append⟩

/-- **A run of a command asks first.** -/
theorem asksFirst_run {command : Command} {log : Log} {result : Except Trace Unit}
    (h : (s.run command).run.Branch log result) :
    s.AsksFirst command (∃ e, result = .error e) log where
  mute := by
    intro hmute x hx
    have hminds := (careful_mute hmute).minds_run command fun _ _ =>
      Service.minds_systemctl lasting_false fun _ => nofun
    exact Bool.eq_false_iff.mpr ((hminds log result h).idle lasting_false id x hx)
  unclaim := by
    rintro rfl
    refine ⟨(guarded_unclaim s).kept (lasting_approved _ _) h, ?_⟩
    exact forwarded_of_branch .unclaimSelf rfl (fun _ => atMost_always_print _) h
  unclaimDevice := by
    rintro device rfl
    exact ⟨(guarded_unclaimDevice s device).kept (lasting_approved _ _) h,
      countP_isSend_of_unclaimDevice h, forwarded_of_unclaimDevice h⟩
  refusal := by
    rintro hmay before request after rfl hoffline
    exact (s.heeds_run hmay).kept before request after result h hoffline
  programs := by
    intro hnot
    have hg := lasting_allowed_or s command
    cases hservice : command.isOnService with
    | false =>
      have hcareful := s.careful_allowed.mono hg fun _ => .inl
      exact hcareful.minds_run command (fun hon => nomatch hservice.symm.trans hon) log result h
    | true =>
      cases command with
      | changeServer domain =>
        exact (s.minds_changeServer domain).mono
          (fun _ => Or.imp_right fun hanswered => ⟨⟨domain, rfl⟩, hanswered⟩) log result h
      | service command' => exact absurd rfl (hnot command')
      | _ => cases hservice

/-! ### Around a run -/

/-- What is done around a run changes nothing about what it asks first. -/
theorem AsksFirst.widen {command : Command} {failed failed' : Prop} {before log after : Log}
    (h : s.AsksFirst command failed log) (hbefore : Idle before) (hafter : Complaining after)
    (hfailed : failed → failed') : s.AsksFirst command failed' (before ++ log ++ after) := by
  have hsend : ∀ x ∈ before, ¬isSend x = true :=
    fun x hx => Bool.eq_false_iff.mp (hbefore x hx).1
  have hunsent : ∀ x ∈ after, ¬isSend x = true := hafter.not_mem isSend fun _ => rfl
  have hconsole : ∀ x ∈ before, isReading x = false ∧ isAttach x = false :=
    fun x hx => Bool.or_eq_false_iff.mp (hbefore x hx).2
  have hsends : ∀ {p : Exchange Host.Call Host.Call.Answer → Prop},
      (∀ x ∈ log, isSend x = true → p x) → ∀ x ∈ before ++ log ++ after, isSend x = true → p x := by
    intro p hp x hx hsent
    rcases List.mem_append.mp hx with hx | hx
    · rcases List.mem_append.mp hx with hx | hx
      · exact absurd hsent (hsend x hx)
      · exact hp x hx hsent
    · exact absurd hsent (hunsent x hx)
  constructor
  case mute =>
    intro hmute x hx
    rcases List.mem_append.mp hx with hx | hx
    · rcases List.mem_append.mp hx with hx | hx
      · exact (hconsole x hx).1
      · exact h.mute hmute x hx
    · exact Bool.eq_false_iff.mpr (hafter.not_mem isReading (fun _ => rfl) x hx)
  case unclaim =>
    intro hcommand
    obtain ⟨hkept, hforwarded⟩ := h.unclaim hcommand
    refine ⟨hkept.widen (lasting_approved _ _) hsend hunsent hfailed, ?_⟩
    exact hsends hforwarded
  case unclaimDevice =>
    intro device hcommand
    have hg := lasting_approved s.config.nonInteractive (unclaimDeviceQuestion device)
    obtain ⟨hkept, hcount, hforwarded⟩ := h.unclaimDevice device hcommand
    refine ⟨hkept.widen hg (fun x hx => mt And.left (hsend x hx))
      (fun x hx => mt And.left (hunsent x hx)) hfailed, fun hnot => ?_, hsends hforwarded⟩
    rw [List.countP_append, List.countP_append, List.countP_eq_zero.mpr hsend,
      List.countP_eq_zero.mpr hunsent, Nat.zero_add]
    exact hcount fun hyes => hnot (hg.append (hg.prepend hyes))
  case refusal =>
    intro hmay earlier request later hlog hoffline
    rw [List.append_assoc] at hlog
    obtain ⟨more, rfl, hmore⟩ := exists_of_notMem_left hlog fun hx => hsend _ hx rfl
    obtain ⟨rest, rfl, rfl⟩ := exists_of_notMem_right hmore fun hx => hunsent _ hx rfl
    have hkept := h.refusal hmay more request rest rfl fun x hx =>
      hoffline x (List.mem_append_right before hx)
    exact hkept.widen (Recovery.lasting_allowed _) (fun _ hx => absurd hx List.not_mem_nil)
      (hafter.not_mem isChange fun _ => rfl) hfailed
  case programs =>
    intro hnot
    have hg := lasting_allowed_or s command
    have hfirst := Behind.append hg
      (behind_of_idle fun x hx => Bool.eq_false_iff.mp (hconsole x hx).2) (.inr (h.programs hnot))
    exact hfirst.append hg (.inr (behind_of_idle (hafter.not_mem isAttach fun _ => rfl)))

end Setting

/-! ### The program -/

/-- What a program asks that is about no command. -/
theorem idle_of_told {question : Host.Call} (hquestion : ∀ answer : question.Answer,
      isSend ⟨question, answer⟩ = false ∧ isConsole ⟨question, answer⟩ = false)
    {f : question.Answer → Nat} {log : Log} {code : Nat}
    (h : ((Dialogue.query question).bind fun answer => done (f answer)).Branch log code) :
    Idle log := by
  obtain ⟨first, answer, rest, hquery, hdone, rfl⟩ := branch_bind_iff.mp h
  obtain rfl := branch_query_iff.mp hquery
  obtain ⟨rfl, _⟩ := branch_done_iff.mp hdone
  intro x hx
  rw [List.append_nil] at hx
  rw [List.mem_singleton.mp hx]
  exact hquestion answer

/-- How a run of a command ends the program. -/
theorem branch_end {d : Host.Asking (Except Trace Unit)} {log : Log} {code : Nat}
    (h : (d.bind fun result =>
      match result with
      | .ok () => done 0
      | .error t => (Host.complain (failureText t)).bind fun _ => done 1).Branch log code) :
    ∃ inner after result, d.Branch inner result ∧ Complaining after ∧ log = inner ++ after ∧
      ((∃ e, result = .error e) → code = 1) := by
  obtain ⟨inner, t | _, after, hd, hend, rfl⟩ := branch_bind_iff.mp h
  · obtain ⟨first, _, rest, hcomplain, hdone, rfl⟩ := branch_bind_iff.mp hend
    obtain rfl := branch_query_iff.mp hcomplain
    obtain ⟨rfl, rfl⟩ := branch_done_iff.mp hdone
    refine ⟨inner, _, _, hd, fun x hx => ⟨failureText t, ?_⟩, rfl, fun _ => rfl⟩
    exact List.mem_singleton.mp hx
  · obtain ⟨rfl, _⟩ := branch_done_iff.mp hend
    exact ⟨inner, [], _, hd, fun _ hx => absurd hx List.not_mem_nil, rfl, fun ⟨_, he⟩ => nomatch he⟩

/-- **Nothing guarded by a question happens without a yes**, on any command line, in any environment
and whatever the surroundings answer: the words are no command and nothing is done, or the setting
cannot be found and nothing is done but that the program fails, or the command is run in the setting
that command line, environment and file come to, and asks first. -/
theorem program_asks_first (words : List String) (env : String → Option String) (release : Release)
    (rounds : Nat) {σ : Type} (world : σ → (q : Host.Call) → q.Answer × σ) (start : σ) :
    let run := (runProgram words env release rounds).runLogged world start
    match Command.read words with
    | .error _ => Idle run.2.2
    | .ok (command, flags) =>
      (run.1 = 1 ∧ Idle run.2.2 ∧ ∃ first rest e, run.2.2 = first ++ rest ∧
          (findSetting flags env release rounds).run.Branch first (.error e)) ∨
        ∃ first rest s, run.2.2 = first ++ rest ∧ Found flags env first s ∧
          s.AsksFirst command (run.1 = 1) run.2.2 := by
  have h := branch_runLogged world (runProgram words env release rounds) start
  dsimp only
  generalize (runProgram words env release rounds).runLogged world start = run at h ⊢
  obtain ⟨code, _, log⟩ := run
  dsimp only at h ⊢
  unfold runProgram at h
  cases hread : Command.read words with
  | error stop =>
    rw [hread] at h
    cases stop with
    | version => exact idle_of_told (fun _ => ⟨rfl, rfl⟩) h
    | help => exact idle_of_told (fun _ => ⟨rfl, rfl⟩) h
    | refused => exact idle_of_told (fun _ => ⟨rfl, rfl⟩) h
  | ok read =>
    obtain ⟨command, flags⟩ := read
    rw [hread] at h
    obtain ⟨inner, after, result, hrun, hafter, rfl, hcode⟩ := branch_end h
    obtain ⟨e, hfind, rfl⟩ | ⟨first, s, rest, hfind, hrest, rfl⟩ := branch_run_bind_iff.mp hrun
    · left
      refine ⟨hcode ⟨e, rfl⟩, fun x hx => ?_, inner, after, e, rfl, hfind⟩
      rcases List.mem_append.mp hx with hx | hx
      · exact (found_of_branch hfind).1 x hx
      · obtain ⟨text, rfl⟩ := hafter x hx
        exact ⟨rfl, rfl⟩
    · right
      obtain ⟨hidle, hfound⟩ := found_of_branch hfind
      refine ⟨first, rest ++ after, s, List.append_assoc _ _ _, hfound s rfl, ?_⟩
      exact (Setting.asksFirst_run hrest).widen hidle hafter hcode

/-- An environment that gives the secret of the daemon. -/
def withSecret (name : String) : Option String :=
  if name = "HNET_DAEMON_API_SECRET" then some "secret" else none

/-- A machine whose user types a line and whose daemon forwards one request. -/
def typing (line : String) : Machine where
  input := Text.Utf8.encode line
  accountHome? := some "/root"
  network := { answers := [.ok ⟨200, Text.Utf8.encode "\x7b\"type\":\"success\"\x7d"⟩] }

/-- The run of `unclaim` where a line is typed. -/
def unclaimRun (line : String) : Nat × Machine × Log :=
  (runProgram ["unclaim"] withSecret ⟨"", "", ""⟩ 0).runLogged Machine.answer (typing line)

/-- The exit code of that run, and how many requests it sends. -/
def unclaimOutcome (line : String) : Nat × Nat :=
  match unclaimRun line with
  | (code, _, log) => (code, log.countP isSend)

theorem unclaimOutcome_fst (line : String) : (unclaimOutcome line).1 = (unclaimRun line).1 := rfl

/-- A no sends nothing; behind a yes, which may be written in capitals and with blanks, the device is
given up. -/
theorem program_asks_first_unclaim :
    unclaimOutcome "no\n" = (1, 0) ∧ unclaimOutcome " YES\n" = (0, 1) ∧
      ∃ s : Setting, Approved s.config.nonInteractive Setting.unclaimQuestion
        (unclaimRun " YES\n").2.2 := by
  have hno : unclaimOutcome "no\n" = (1, 0) := by decide +kernel
  have hyes : unclaimOutcome " YES\n" = (0, 1) := by decide +kernel
  have hread : Command.read ["unclaim"] = .ok (.unclaim, {}) := rfl
  have hasks := program_asks_first ["unclaim"] withSecret ⟨"", "", ""⟩ 0 Machine.answer
    (typing " YES\n")
  rw [hread] at hasks
  refine ⟨hno, hyes, ?_⟩
  have hzero : (unclaimRun " YES\n").1 = 0 := by rw [← unclaimOutcome_fst, hyes]
  obtain ⟨hcode, _⟩ | ⟨_, _, s, _, _, hfirst⟩ := hasks
  · cases hzero.symm.trans hcode
  · refine ⟨s, Classical.byContradiction fun hnot => ?_⟩
    have hcode := ((hfirst.unclaim rfl).1.without hnot).1
    cases hzero.symm.trans hcode

end MeshControl.CommandLine
