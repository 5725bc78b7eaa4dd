import MeshControl.Account.Server
import MeshControl.Daemon.Watch
import MeshControl.Dashboard.Client
import MeshControl.Identity.Generator
import MeshControl.Proofs.Host.Approval
import MeshControl.Wait.Polling

/-!
# What the terminal is used for

Reading from the user and running a program on the terminal are what the terminal is used for; a kind
of exchange within these (`OfConsole`) has no part in files, requests and what is written.  So calls,
waits, watches and searches on a machine mind any permission for such a kind, apart from what they are
given to bring the daemon back up or to find out who logs in.
-/

namespace MeshControl.Host

open Dialogue

/-- Whether the terminal is used: something is read from the user, or a program is run on it. -/
def isConsole (x : Exchange Call Call.Answer) : Bool :=
  isReading x || isAttach x

/-- A kind of exchange in which the terminal is used. -/
def OfConsole (deed : Exchange Call Call.Answer → Prop) : Prop :=
  ∀ x, isConsole x = false → ¬deed x

theorem ofConsole_isReading : OfConsole fun x => isReading x = true := by
  intro x hx hread
  rw [isConsole, hread] at hx
  cases hx

theorem ofConsole_isAttach : OfConsole fun x => isAttach x = true := by
  intro x hx hattach
  rw [isConsole, hattach, Bool.or_true] at hx
  cases hx

section Parts

variable {granted : Log → Prop} {deed : Exchange Call Call.Answer → Prop} {α β : Type}

theorem OfConsole.files (hdeed : OfConsole deed) (question : Files.Call)
    (answer : question.Answer) : ¬deed ⟨.files question, answer⟩ :=
  hdeed _ rfl

theorem minds_print (hdeed : OfConsole deed) (text : String) :
    Minds granted deed (print text) :=
  minds_query fun _ => hdeed _ rfl

theorem minds_complain (hdeed : OfConsole deed) (text : String) :
    Minds granted deed (complain text) :=
  minds_query fun _ => hdeed _ rfl

/-! ### Calls -/

theorem minds_answerLink (hg : Lasting granted) (hdeed : OfConsole deed) (a : Daemon.Access)
    (q : Daemon.Link.Call) : Minds granted deed (a.answerLink q) := by
  cases q with
  | secret => exact minds_onFiles hg hdeed.files _
  | send request => exact minds_query fun _ => hdeed _ rfl

theorem minds_attemptOnHost (hg : Lasting granted) (hdeed : OfConsole deed) (a : Daemon.Access)
    (d : Daemon.Link.Asking α) : Minds granted deed (a.onHost d) :=
  minds_answerWith hg (minds_answerLink hg hdeed a) d

theorem minds_callOnHost (hg : Lasting granted) (hdeed : OfConsole deed) (a : Daemon.Access)
    {recovery : Asking (Except Daemon.Error Unit)} (hrecovery : Minds granted deed recovery)
    (d : Daemon.Client.Asking α) : Minds granted deed (a.callOnHost recovery d) := by
  refine minds_answerWith hg (fun q => ?_) d
  cases q with
  | link question => exact minds_answerLink hg hdeed a question
  | recover => exact hrecovery

theorem minds_poll (hg : Lasting granted) (hdeed : OfConsole deed) (a : Daemon.Access) :
    Minds granted deed
      ((a.onHost (Daemon.statusOnce a.base)).bind fun result => done result.toOption) :=
  (minds_attemptOnHost hg hdeed a _).bind_all hg fun _ => minds_done _

theorem minds_wait (hg : Lasting granted) (hdeed : OfConsole deed) (a : Daemon.Access)
    (policy : Wait.Policy) (conditions : List Wait.Condition) :
    Minds granted deed (Wait.onHost a policy conditions) := by
  refine minds_answerWith hg (fun q => ?_) _
  cases q with
  | poll => exact minds_poll hg hdeed a
  | check condition snapshot => exact minds_done _
  | pause => exact minds_query fun _ => hdeed _ rfl
  | report event => exact minds_print hdeed _

theorem minds_watchOnHost (hg : Lasting granted) (hdeed : OfConsole deed) (a : Daemon.Access)
    (c : Daemon.Client) {recovery : Asking (Except Daemon.Error Unit)}
    (hrecovery : Minds granted deed recovery) (interval : Nat) (ctx : Daemon.ReportContext)
    (n : Nat) : Minds granted deed (Daemon.watchOnHost a c recovery interval ctx n) := by
  have hwatch : ∀ first, Minds granted deed
      ((Daemon.Watch.run first n).answerWith (Daemon.Watch.answerCall a interval ctx)) := by
    refine fun first => minds_answerWith hg (fun q => ?_) _
    cases q with
    | poll => exact minds_poll hg hdeed a
    | pause => exact minds_query fun _ => hdeed _ rfl
    | draw snapshot => exact minds_print hdeed _
  unfold Daemon.watchOnHost
  refine (minds_callOnHost hg hdeed a hrecovery _).bind_all hg fun result => ?_
  rcases result with e | first
  · exact minds_done _
  · exact (hwatch first).bind_all hg fun _ => minds_done _

theorem minds_dashboard (hg : Lasting granted) (hdeed : OfConsole deed) (a : Daemon.Access)
    (d : Dashboard.Asking α) : Minds granted deed (Dashboard.onHost a d) := by
  refine minds_answerWith hg (fun q => ?_) _
  cases q with
  | link question => exact minds_answerLink hg hdeed a question
  | warn text => exact minds_complain hdeed _

theorem minds_search (hg : Lasting granted) (hdeed : OfConsole deed) (program start : String)
    (workers attempts : Nat) :
    Minds granted deed (Identity.searchOnHost program start workers attempts) := by
  refine minds_answerWith hg (fun q => ?_) _
  cases q with
  | generate =>
    have hcapture : Minds granted deed (capture program ["--genid"] 10) :=
      minds_query fun _ => hdeed _ rfl
    have hgenerate : Minds granted deed (Identity.generate program) :=
      hcapture.bind_all hg fun _ => minds_done _
    exact hgenerate.bind_all hg fun _ => minds_done _

/-! ### Sessions -/

theorem minds_post (hg : Lasting granted) (hdeed : OfConsole deed) (s : Account.Server)
    (token? : Option String) (document : String) (arguments : Json.Value)
    (decode? : Json.Node → Option α) :
    Minds granted deed (s.post token? document arguments decode?) := by
  unfold Account.Server.post
  split
  · exact minds_done _
  · have hsend : ∀ request, Minds granted deed (send request) :=
      fun _ => minds_query fun _ => hdeed _ rfl
    refine (hsend _).bind_all hg fun answer => ?_
    cases answer with
    | error failure => exact minds_done _
    | ok told => exact minds_done _

/-- Who logs in is not asked where nobody is to be asked. -/
theorem minds_askCredentialsUnless (hg : Lasting granted) (hdeed : OfConsole deed)
    {nonInteractive : Bool}
    (hread : nonInteractive = true ∨ ∀ x, isReading x = true → ¬deed x) :
    Minds granted deed (Account.askCredentialsUnless nonInteractive) := by
  cases nonInteractive with
  | true => exact minds_done _
  | false =>
    have hread : ∀ x, isReading x = true → ¬deed x := hread.resolve_left nofun
    have hline : Minds granted deed readLine :=
      (minds_query fun _ => hread _ rfl).bind_all hg fun _ => minds_done _
    have hhidden : Minds granted deed readHidden := minds_query fun _ => hread _ rfl
    show Minds granted deed Account.askCredentials
    unfold Account.askCredentials
    refine (minds_print hdeed _).run_liftM hg |>.run_bind hg fun _ => ?_
    refine (minds_print hdeed _).run_liftM hg |>.run_bind hg fun _ => ?_
    refine Minds.run_bind hg (hline.bind_all hg fun _ => minds_done _) fun line => ?_
    refine (minds_print hdeed _).run_liftM hg |>.run_bind hg fun _ => ?_
    refine Minds.run_bind hg (hhidden.bind_all hg fun _ => minds_done _) fun bytes => ?_
    refine Minds.run_bind hg (minds_done _) fun password => ?_
    refine (minds_print hdeed _).run_liftM hg |>.run_bind hg fun _ => ?_
    dsimp only
    split_ifs
    · exact minds_done _
    · exact minds_done _

theorem minds_session (hg : Lasting granted) (hdeed : OfConsole deed) (d : Account.Desk)
    (hcredentials : Minds granted deed (Account.askCredentialsUnless d.nonInteractive))
    {perform : String → Asking (Except Account.Error α)}
    (hperform : ∀ token, Minds granted deed (perform token))
    (session : Account.Session.Asking α β) :
    Minds granted deed (d.onHost perform session) := by
  refine minds_answerWith hg (fun q => ?_) _
  cases q with
  | load => exact minds_onFiles hg hdeed.files _
  | save token => exact minds_onFiles hg hdeed.files _
  | credentials => exact hcredentials
  | obtain who => exact minds_post hg hdeed _ _ _ _ _
  | renew token => exact minds_post hg hdeed _ _ _ _ _
  | perform token => exact hperform token

end Parts

end MeshControl.Host
