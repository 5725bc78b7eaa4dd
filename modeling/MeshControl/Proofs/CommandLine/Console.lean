import MeshControl.CommandLine.Run
import MeshControl.Proofs.Daemon.Restart
import MeshControl.Proofs.Host.Console

/-!
# What commands use the terminal for

A kind of exchange in which the terminal is used takes place in three parts of a command only: bringing
the daemon back up, asking for a yes and asking who logs in.  If these mind a permission (`Careful`),
so does every command that does not work on the service by itself (`Careful.minds_run`).

Two kinds are of interest.  Where nobody is to be asked nothing is read from the user (`careful_mute`),
and programs are run on the terminal with the permission to bring the daemon back up
(`careful_allowed`).
-/

namespace MeshControl.CommandLine

open Dialogue MeshControl.Host MeshControl.Daemon

namespace Setting

/-- The daemon may be brought back up. -/
def Allowed (s : Setting) : Log → Prop :=
  s.recoveryPlan.Allowed

/-- The parts of commands that use the terminal mind a permission. -/
structure Careful (s : Setting) (granted : Log → Prop)
    (deed : Exchange Host.Call Host.Call.Answer → Prop) : Prop where
  lasting : Lasting granted
  ofConsole : OfConsole deed
  recovery : Minds granted deed s.recovery
  confirm : ∀ question, Minds granted deed (confirmUnless s.config.nonInteractive question)
  credentials : Minds granted deed (Account.askCredentialsUnless s.config.nonInteractive)

/-- Where nobody is to be asked nothing is read from the user. -/
theorem careful_mute {s : Setting} (mute : s.config.nonInteractive = true) :
    s.Careful (fun _ => False) fun x => isReading x = true where
  lasting := lasting_false
  ofConsole := ofConsole_isReading
  recovery := by
    -- there is no yes, so the permission to bring the daemon back up is as good as none
    have hguarded : Guarded s.Allowed (fun x => isReading x = true) s.recovery :=
      s.recoveryPlan.guarded_run s.access (fun _ => nofun)
        (minds_confirmUnless (Recovery.lasting_allowed _) (fun _ => nofun) (.inl mute) _)
    intro log result h before x after hlog hx
    obtain ⟨_, hasked, _⟩ := hguarded.minds log result h before x after hlog hx
    exact absurd (mute.symm.trans hasked) nofun
  confirm := minds_confirmUnless lasting_false (fun _ => nofun) (.inl mute)
  credentials := minds_askCredentialsUnless lasting_false ofConsole_isReading (.inl mute)

/-- Programs are run on the terminal with the permission to bring the daemon back up. -/
theorem careful_allowed (s : Setting) : s.Careful s.Allowed fun x => isAttach x = true where
  lasting := Recovery.lasting_allowed _
  ofConsole := ofConsole_isAttach
  recovery := by
    refine Guarded.minds (s.recoveryPlan.guarded_run s.access (fun _ => nofun) ?_)
    exact minds_confirmUnless (Recovery.lasting_allowed _) (fun _ => nofun) (.inr fun _ => nofun) _
  confirm :=
    minds_confirmUnless (Recovery.lasting_allowed _) (fun _ => nofun) (.inr fun _ => nofun)
  credentials := by
    refine minds_askCredentialsUnless (Recovery.lasting_allowed _) ofConsole_isAttach (.inr ?_)
    rintro ⟨question, answer⟩ hread hattach
    cases question with
    | attach program arguments => cases hread
    | _ => cases hattach

namespace Careful

variable {s : Setting} {granted : Log → Prop} {deed : Exchange Host.Call Host.Call.Answer → Prop}
  {α β ε : Type}

/-- A weaker permission is minded as well. -/
theorem mono (h : s.Careful granted deed) {other : Log → Prop} (ho : Lasting other)
    (hle : ∀ log, granted log → other log) : s.Careful other deed where
  lasting := ho
  ofConsole := h.ofConsole
  recovery := h.recovery.mono hle
  confirm question := (h.confirm question).mono hle
  credentials := h.credentials.mono hle

/-! ### Parts of commands -/

theorem minds_attempt (hg : Lasting granted) {d : Host.Asking (Except ε α)}
    (hd : Minds granted deed d) (tell : ε → Trace) : Minds granted deed (attempt tell d).run :=
  hd.bind_all hg fun _ => minds_done _

theorem minds_always (hg : Lasting granted) {d : Host.Asking α} (hd : Minds granted deed d) :
    Minds granted deed (always d).run :=
  hd.run_liftM hg

theorem bind (h : s.Careful granted deed) {x : Running α} {f : α → Running β}
    (hx : Minds granted deed x.run) (hf : ∀ value, Minds granted deed (f value).run) :
    Minds granted deed (x >>= f).run :=
  hx.run_bind h.lasting hf

theorem minds_say (h : s.Careful granted deed) (line : String) :
    Minds granted deed (say line).run :=
  minds_always h.lasting (minds_print h.ofConsole _)

theorem minds_succeed (h : s.Careful granted deed) (text : String) :
    Minds granted deed (succeed text).run :=
  minds_always h.lasting (minds_print h.ofConsole _)

theorem minds_callDaemon (h : s.Careful granted deed) (tell : Daemon.Error → Trace)
    (d : Client.Asking (Except Daemon.Error α)) : Minds granted deed (s.callDaemon tell d).run :=
  minds_attempt h.lasting (minds_callOnHost h.lasting h.ofConsole _ h.recovery d) tell

theorem minds_waitFor (h : s.Careful granted deed) (conditions : List Wait.Condition) :
    Minds granted deed (s.waitFor conditions).run :=
  minds_attempt h.lasting (minds_wait h.lasting h.ofConsole _ _ _) _

theorem minds_askDashboard (h : s.Careful granted deed) (d : Dashboard.Asking α) :
    Minds granted deed (s.askDashboard d).run :=
  minds_attempt h.lasting (minds_dashboard h.lasting h.ofConsole _ d) _

theorem minds_confirm (h : s.Careful granted deed) (question : String) :
    Minds granted deed (s.confirm question).run := by
  refine h.bind (minds_attempt h.lasting (h.confirm question) _) fun isYes => ?_
  cases isYes with
  | true => exact minds_done _
  | false => exact minds_done _

theorem minds_forM_say (h : s.Careful granted deed) (lines : List String) :
    Minds granted deed (lines.forM say).run := by
  induction lines with
  | nil => exact minds_done _
  | cons line rest ih => exact h.bind (h.minds_say line) fun _ => ih

/-! ### Commands -/

theorem minds_reportContext (h : s.Careful granted deed) :
    Minds granted deed s.reportContext :=
  (minds_versionOf h.lasting (fun _ _ _ _ => h.ofConsole _ rfl) _).bind_all h.lasting fun _ => minds_done _

theorem minds_showStatus (h : s.Careful granted deed) (follows : Bool) :
    Minds granted deed (s.showStatus follows).run := by
  refine h.bind (minds_always h.lasting h.minds_reportContext) fun ctx => ?_
  cases follows with
  | false => exact h.bind (h.minds_callDaemon _ _) fun _ => h.minds_say _
  | true =>
    have hwatch := minds_watchOnHost h.lasting h.ofConsole s.access s.client h.recovery
      s.waitPolicy.interval ctx s.rounds
    exact minds_attempt h.lasting hwatch _

theorem minds_showVersion (h : s.Careful granted deed) :
    Minds granted deed s.showVersion.run := by
  refine h.bind (h.minds_say _) fun _ => h.bind (h.minds_say _) fun _ => ?_
  refine h.bind (h.minds_say _) fun _ => h.bind (h.minds_say _) fun _ => ?_
  refine h.bind (minds_always h.lasting (minds_attemptOnHost h.lasting h.ofConsole _ _)) ?_
  rintro (e | snapshot)
  · exact h.minds_say _
  · exact h.minds_say _

theorem minds_showAddress (h : s.Careful granted deed) (host? : Option String) :
    Minds granted deed (s.showAddress host?).run := by
  refine h.bind (h.minds_callDaemon _ _) fun snapshot => ?_
  cases host? with
  | none => exact h.minds_say _
  | some host =>
    dsimp only
    split
    · exact h.minds_say _
    · exact minds_done _

theorem minds_join (h : s.Careful granted deed) (code hostname : String) (waits : Bool) :
    Minds granted deed (s.join code hostname waits).run := by
  refine h.bind (h.minds_callDaemon _ _) fun _ => ?_
  cases waits with
  | true => exact h.bind (h.minds_waitFor _) fun _ => h.minds_succeed _
  | false => exact h.minds_succeed _

theorem minds_runWhitelist (h : s.Careful granted deed) (command : WhitelistCommand) :
    Minds granted deed (s.runWhitelist command).run := by
  cases command with
  | enable => exact h.bind (h.minds_callDaemon _ _) fun _ => h.minds_succeed _
  | disable => exact h.bind (h.minds_callDaemon _ _) fun _ => h.minds_succeed _
  | list => exact h.bind (h.minds_callDaemon _ _) fun _ => h.minds_forM_say _
  | add text =>
    refine h.bind (minds_done _) fun _ => ?_
    exact h.bind (h.minds_callDaemon _ _) fun _ => h.minds_succeed _
  | remove text =>
    refine h.bind (minds_done _) fun _ => ?_
    exact h.bind (h.minds_callDaemon _ _) fun _ => h.minds_succeed _

theorem minds_runWait (h : s.Careful granted deed) (conditions : List Wait.Condition) :
    Minds granted deed (s.runWait conditions).run :=
  h.bind (h.minds_callDaemon _ _) fun _ => h.minds_waitFor _

theorem minds_claim (h : s.Careful granted deed) (params : Dashboard.ClaimParams) (waits : Bool) :
    Minds granted deed (s.claim params waits).run := by
  have hclaim : ∀ op : Dashboard.Operation, Minds granted deed
      (s.askDashboard (op.run s.access.base) >>= succeed).run :=
    fun _ => h.bind (h.minds_askDashboard _) fun _ => h.minds_succeed _
  cases waits with
  | true => exact h.bind (h.minds_waitFor _) fun _ => hclaim _
  | false => exact hclaim _

theorem minds_unclaim (h : s.Careful granted deed) : Minds granted deed s.unclaim.run := by
  refine h.bind (h.minds_confirm _) fun _ => ?_
  exact h.bind (h.minds_askDashboard _) fun _ => h.minds_succeed _

theorem minds_perform (h : s.Careful granted deed) (op : Dashboard.Operation) :
    Minds granted deed (s.perform op).run :=
  h.bind (h.minds_askDashboard _) fun _ => h.minds_say _

theorem minds_membership (h : s.Careful granted deed) (group device : String) :
    Minds granted deed (s.membership group device).run := by
  refine h.bind (h.minds_askDashboard _) fun _ => ?_
  exact h.bind (h.minds_askDashboard _) fun _ => minds_done _

theorem minds_runDashboard (h : s.Careful granted deed) (command : DashboardCommand) :
    Minds granted deed (s.runDashboard command).run := by
  cases command with
  | login =>
    have hlogin : Minds granted deed s.desk.logIn :=
      minds_session h.lasting h.ofConsole _ h.credentials (fun _ => minds_done _) _
    exact h.bind (minds_attempt h.lasting hlogin _) fun _ => h.minds_succeed _
  | logout =>
    have hclear : Minds granted deed (onFiles (Account.TokenFile.clear s.places.tokenFile)) :=
      minds_onFiles h.lasting h.ofConsole.files _
    exact h.bind (minds_attempt h.lasting hclear _) fun _ => h.minds_succeed _
  | operation op => exact h.minds_perform op
  | showGroup group => exact h.bind (h.minds_askDashboard _) fun _ => h.minds_perform _
  | updateGroup group changes => exact h.bind (h.minds_askDashboard _) fun _ => h.minds_perform _
  | removeGroup group => exact h.bind (h.minds_askDashboard _) fun _ => h.minds_perform _
  | updateDevice device changes => exact h.bind (h.minds_askDashboard _) fun _ => h.minds_perform _
  | unclaimDevice device =>
    refine h.bind (h.minds_askDashboard _) fun _ => ?_
    exact h.bind (h.minds_confirm _) fun _ => h.minds_perform _
  | attach group device => exact h.bind (h.minds_membership _ _) fun _ => h.minds_perform _
  | detach group device => exact h.bind (h.minds_membership _ _) fun _ => h.minds_perform _

theorem minds_runAccount (h : s.Careful granted deed) (op : Account.Operation) :
    Minds granted deed (s.desk.run op) := by
  refine Minds.bind_all h.lasting ?_ fun _ => minds_done _
  refine minds_session h.lasting h.ofConsole _ h.credentials (fun token => ?_) _
  exact minds_post h.lasting h.ofConsole _ _ _ _ _

theorem minds_generate (h : s.Careful granted deed) (start : String) (workers attempts : Nat) :
    Minds granted deed (s.generate start workers attempts).run := by
  refine h.bind (minds_always h.lasting (minds_print h.ofConsole _)) fun _ => ?_
  refine h.bind (minds_always h.lasting (minds_search h.lasting h.ofConsole _ _ _ _)) fun result? => ?_
  rcases result? with _ | e | _ | identity
  · exact minds_done _
  · exact minds_done _
  · exact minds_done _
  · exact h.minds_say _

theorem minds_showConfig (h : s.Careful granted deed) : Minds granted deed s.showConfig.run := by
  refine h.bind (h.minds_say _) fun _ => ?_
  exact h.bind (minds_done _) fun _ => h.minds_say _

theorem minds_initConfig (h : s.Careful granted deed) :
    Minds granted deed (CommandLine.initConfig s.places) := by
  refine Minds.run_bind h.lasting (minds_done _) fun path => ?_
  refine Minds.run_bind h.lasting ((minds_onFiles h.lasting h.ofConsole.files _).run_liftM h.lasting) ?_
  rintro (_ | _)
  · have hsave : Minds granted deed (onFiles (Config.saveTo path {})) :=
      minds_onFiles h.lasting h.ofConsole.files _
    exact Minds.run_bind h.lasting (hsave.bind_all h.lasting fun _ => minds_done _)
      fun _ => minds_done _
  · exact minds_done _

/-! ### The service -/

/-- Running `systemctl` minds a permission. -/
abbrev SystemctlMinds (granted : Log → Prop)
    (deed : Exchange Host.Call Host.Call.Answer → Prop) : Prop :=
  ∀ arguments action, Minds granted deed (Service.systemctl arguments action)

theorem minds_restartAndWait (h : s.Careful granted deed)
    (hsystemctl : SystemctlMinds granted deed) : Minds granted deed s.restartAndWait.run := by
  refine h.bind (minds_always h.lasting (hsystemctl _ _)) fun result => ?_
  rcases result with cause | _
  · exact minds_always h.lasting (minds_complain h.ofConsole _)
  · have hpause : Minds granted deed (pause 500) := minds_query fun _ => h.ofConsole _ rfl
    exact h.bind (minds_always h.lasting hpause) fun _ => h.minds_waitFor _

theorem minds_changeServer (h : s.Careful granted deed) (hsystemctl : SystemctlMinds granted deed)
    (domain : String) : Minds granted deed (s.changeServer domain).run := by
  refine h.bind (h.minds_callDaemon _ _) fun _ => ?_
  exact h.bind (h.minds_succeed _) fun _ => h.minds_restartAndWait hsystemctl

theorem minds_runService (h : s.Careful granted deed) (hsystemctl : SystemctlMinds granted deed)
    (command : ServiceCommand) : Minds granted deed (s.runService command).run := by
  -- a start and a restart may be followed by a wait
  have hwaits : ∀ (arguments : List String) (action : String) (waits : Bool), Minds granted deed
      (attempt id (Service.systemctl arguments action) >>= fun _ =>
        if waits then s.waitFor [.daemonReachable] else pure ()).run := by
    intro arguments action waits
    refine h.bind (minds_attempt h.lasting (hsystemctl _ _) _) fun _ => ?_
    cases waits with
    | true => exact h.minds_waitFor _
    | false => exact minds_done _
  cases command with
  | start waits => exact hwaits _ _ _
  | stop => exact minds_attempt h.lasting (hsystemctl _ _) _
  | restart waits => exact hwaits _ _ _
  | install =>
    exact Service.minds_install h.lasting h.ofConsole.files (fun _ => h.ofConsole _ rfl) hsystemctl
      _ _

end Careful

end Setting

/-! ### All commands -/

/-- Whether a command works on the service by itself. -/
def Command.isOnService : Command → Bool
  | service _ | changeServer _ => true
  | _ => false

/-- **A command uses the terminal as its parts do.** -/
theorem Setting.Careful.minds_run {s : Setting} {granted : Log → Prop}
    {deed : Exchange Host.Call Host.Call.Answer → Prop} (h : s.Careful granted deed)
    (command : Command) (hservice : command.isOnService = true → SystemctlMinds granted deed) :
    Minds granted deed (s.run command).run := by
  cases command with
  | status follows => exact h.minds_showStatus follows
  | version => exact h.minds_showVersion
  | address host? => exact h.minds_showAddress host?
  | join code hostname waits => exact h.minds_join code hostname waits
  | changeServer domain => exact h.minds_changeServer (hservice rfl) domain
  | whitelist command => exact h.minds_runWhitelist command
  | wait conditions => exact h.minds_runWait conditions
  | service command => exact h.minds_runService (hservice rfl) command
  | claim params waits => exact h.minds_claim params waits
  | unclaim => exact h.minds_unclaim
  | dashboard command => exact h.minds_runDashboard command
  | account op =>
    exact h.bind (minds_attempt h.lasting (h.minds_runAccount op) _) fun _ => h.minds_say _
  | generate start workers attempts => exact h.minds_generate start workers attempts
  | showConfig => exact h.minds_showConfig
  | initConfig =>
    exact h.bind (minds_attempt h.lasting h.minds_initConfig _) fun _ => h.minds_succeed _

end MeshControl.CommandLine
