import MeshControl.Proofs.CommandLine.Console
import MeshControl.Proofs.Daemon.Refusal

/-!
# Commands whose first request is refused

A command that calls the daemon goes on only behind that call.  So if nobody listens to its first
request, it does nothing any more without the permission to bring the daemon back up (`heeds_run`).
-/

namespace MeshControl.Daemon

open Dialogue MeshControl.Host

variable {granted : Log → Prop} {deed : Exchange Host.Call Host.Call.Answer → Prop} {α β ε : Type}

/-! ### Dialogues that may fail -/

theorem Heeds.run_bind (hg : Lasting granted) {x : ExceptT ε Asking α} {f : α → ExceptT ε Asking β}
    (hx : Heeds granted deed x.run) : Heeds granted deed (x >>= f).run :=
  hx.bind hg fun e => ⟨e, rfl⟩

/-- A failure heeds any permission. -/
theorem heeds_error (e : ε) : Heeds granted deed (done (.error e) : Asking (Except ε α)) where
  kept := by
    intro before request after result h
    obtain ⟨hnil, _⟩ := branch_done_iff.mp h
    exact absurd hnil (List.append_ne_nil_of_right_ne_nil before (List.cons_ne_nil _ _))
  answered := by
    intro log value h
    obtain ⟨_, hok⟩ := branch_done_iff.mp h
    cases hok

theorem Heeds.run_after_offline {x : ExceptT ε Asking α} {f : α → ExceptT ε Asking β}
    (hx : AtMost isSend 0 x.run) (hf : ∀ value, Heeds granted deed (f value).run) :
    Heeds granted deed (x >>= f).run := by
  rw [ExceptT.run_bind, bind_eq]
  refine Heeds.after_offline hx ?_
  rintro (e | value)
  · exact heeds_error e
  · exact hf value

end MeshControl.Daemon

namespace MeshControl.CommandLine

open Dialogue MeshControl.Daemon MeshControl.Host MeshControl.Json

/-- Whether a command calls the daemon and brings it back up if need be. -/
def Command.mayRecover : Command → Bool
  | status _ | address _ | join _ _ _ | changeServer _ | whitelist _ | wait _ => true
  | _ => false

namespace Setting

variable {α β : Type} {s : Setting}

/-- Some request was answered. -/
def Answered (log : Log) : Prop :=
  ∃ request told, ⟨.send request, .ok told⟩ ∈ log

theorem lasting_answered : Lasting Answered where
  prepend := fun ⟨request, told, hmem⟩ => ⟨request, told, List.mem_append_right _ hmem⟩
  append := fun ⟨request, told, hmem⟩ => ⟨request, told, List.mem_append_left _ hmem⟩

/-- A part of a run that changes nothing behind a refused first request unless the daemon may be
brought back up. -/
abbrev HeedsRefusal (s : Setting) (x : Running α) : Prop :=
  Heeds s.Allowed (fun x => isChange x = true) x.run

theorem guarded_recovery (s : Setting) :
    Guarded s.Allowed (fun x => isChange x = true) s.recovery := by
  refine s.recoveryPlan.guarded_run s.access (fun _ => nofun) ?_
  exact minds_confirmUnless (Recovery.lasting_allowed _) (fun _ => nofun) (.inr fun _ => nofun) _

/-- A call that may be retried heeds the permission to bring the daemon back up. -/
theorem heeds_errand (s : Setting) (e : Errand) (decode? : Node → Option α) (default : α) :
    Heeds s.Allowed (fun x => isChange x = true)
      (s.access.callOnHost s.recovery (e.run s.client decode? default true)) :=
  heeds_call (Recovery.lasting_allowed _) s.access s.guarded_recovery s.client rfl e decode? default

theorem heeds_watch (s : Setting) (ctx : ReportContext) :
    Heeds s.Allowed (fun x => isChange x = true)
      (watchOnHost s.access s.client s.recovery s.waitPolicy.interval ctx s.rounds) := by
  have hfirst := s.heeds_errand (.get "/api/status") Snapshot.ofNode? {}
  unfold watchOnHost
  exact Heeds.bind (Recovery.lasting_allowed _) hfirst fun e => ⟨e, rfl⟩

theorem heeds_attempt {ε : Type} (tell : ε → Trace) {d : Host.Asking (Except ε α)}
    (hd : Heeds s.Allowed (fun x => isChange x = true) d) : s.HeedsRefusal (attempt tell d) :=
  hd.bind (Recovery.lasting_allowed _) fun e => ⟨tell e, rfl⟩

theorem heeds_callDaemon (tell : Daemon.Error → Trace) (e : Errand) (decode? : Node → Option α)
    (default : α) : s.HeedsRefusal (s.callDaemon tell (e.run s.client decode? default true)) :=
  heeds_attempt tell (s.heeds_errand e decode? default)

theorem heeds_snapshot : s.HeedsRefusal s.snapshot :=
  heeds_callDaemon Daemon.Error.trace (.get "/api/status") Snapshot.ofNode? {}

theorem heeds_post (tell : Daemon.Error → Trace) (route : String) (fields : List (String × String)) :
    s.HeedsRefusal (s.post tell route fields) :=
  heeds_callDaemon tell (.post route fields) ignored? ()

theorem HeedsRefusal.bind {x : Running α} {f : α → Running β} (hx : s.HeedsRefusal x) :
    s.HeedsRefusal (x >>= f) :=
  hx.run_bind (Recovery.lasting_allowed _)

theorem heeds_showStatus (follows : Bool) : s.HeedsRefusal (s.showStatus follows) := by
  have hversion : AtMost isSend 0 (always s.reportContext).run :=
    ((atMost_versionOf ofSends_isSend _).bind_free fun _ => atMost_done _).run_liftM
  refine Heeds.run_after_offline hversion fun ctx => ?_
  cases follows with
  | false => exact heeds_snapshot.bind
  | true => exact heeds_attempt _ (s.heeds_watch ctx)

theorem heeds_runWhitelist (command : WhitelistCommand) :
    s.HeedsRefusal (s.runWhitelist command) := by
  cases command with
  | enable => exact (heeds_post _ _ _).bind
  | disable => exact (heeds_post _ _ _).bind
  | list => exact heeds_snapshot.bind
  | add text => exact Heeds.run_after_offline (atMost_done _) fun _ => (heeds_post _ _ _).bind
  | remove text => exact Heeds.run_after_offline (atMost_done _) fun _ => (heeds_post _ _ _).bind

/-- **Behind a refused first request nothing is changed** unless the daemon may be brought back up. -/
theorem heeds_run (s : Setting) {command : Command} (h : command.mayRecover = true) :
    s.HeedsRefusal (s.run command) := by
  cases command with
  | status follows => exact heeds_showStatus follows
  | address host? => exact heeds_snapshot.bind
  | join code hostname waits => exact (heeds_post _ _ _).bind
  | changeServer domain => exact (heeds_post _ _ _).bind
  | whitelist command => exact heeds_runWhitelist command
  | wait conditions => exact heeds_snapshot.bind
  | _ => cases h

/-- Pointing the daemon to another dashboard restarts the service once the daemon has answered. -/
theorem minds_changeServer (s : Setting) (domain : String) :
    Minds (fun log => s.Allowed log ∨ Answered log) (fun x => isAttach x = true)
      (s.changeServer domain).run := by
  have hg : Lasting fun log => s.Allowed log ∨ Answered log :=
    (Recovery.lasting_allowed _).or lasting_answered
  have hcareful := s.careful_allowed.mono hg fun _ => .inl
  unfold changeServer
  rw [ExceptT.run_bind, bind_eq]
  refine Minds.bind hg (hcareful.minds_callDaemon _ _) ?_
  rintro log (e | _) hlog
  · exact .inr (minds_done _)
  · exact .inl (.inr ((heeds_post _ _ _).answered _ _ hlog))

end Setting

end MeshControl.CommandLine
