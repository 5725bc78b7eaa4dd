import MeshControl.CommandLine.Program
import MeshControl.Proofs.Except
import MeshControl.Proofs.Host.Console
import MeshControl.Proofs.Host.Sends

/-!
# What is known when a command is run

Putting together what is known asks for the home of the account and for the configuration file, and
for nothing else.  Whether anybody may be asked comes from three places: the command line, the
environment, and the file (`found_of_branch`).
-/

namespace MeshControl.CommandLine

open Dialogue MeshControl.Host

/-- An exchange about files as one with the machine. -/
def ofFiles (x : Exchange Files.Call Files.Call.Answer) : Exchange Call Call.Answer :=
  ⟨.files x.question, x.answer⟩

theorem branch_onFiles {α : Type} {d : Files.Asking α} {log : Log} {result : α}
    (h : (onFiles d).Branch log result) : ∃ files, d.Branch files result ∧ log = files.map ofFiles := by
  obtain ⟨files, hd, hspelled⟩ := branch_answerWith_iff.mp h
  refine ⟨files, hd, ?_⟩
  clear hd h
  induction hspelled with
  | nil => rfl
  | cons head _ ih =>
    obtain rfl := branch_query_iff.mp head
    rw [ih]
    rfl

/-- Nothing is sent, read from the user or run on the terminal. -/
def Idle (log : Log) : Prop :=
  ∀ x ∈ log, isSend x = false ∧ isConsole x = false

/-- Only failures are told of. -/
def Complaining (log : Log) : Prop :=
  ∀ x ∈ log, ∃ text, x = ⟨.complain text, ()⟩

/-- A kind of exchange that is no complaint has no part in complaints. -/
theorem Complaining.not_mem {log : Log} (h : Complaining log)
    (p : Exchange Call Call.Answer → Bool)
    (hp : ∀ text, p ⟨.complain text, ()⟩ = false) : ∀ x ∈ log, ¬p x = true := by
  intro x hx
  obtain ⟨text, rfl⟩ := h x hx
  exact Bool.eq_false_iff.mp (hp text)

/-- The setting was found: it has the configuration that the file holds, with what the environment and
then the command line change.  Nobody is to be asked if the command line says so, or the environment,
or the file where the environment says nothing; the policy is the one of the file. -/
def Found (flags : Config.Flags) (env : String → Option String) (log : Log) (s : Setting) : Prop :=
  ∃ home files path file? c c',
    log = home ++ files.map ofFiles ∧ (∀ x ∈ home, x.question = .accountHome) ∧
      s.places.configFile? = some path ∧ (Config.readIfThere path).Branch files file? ∧
      Config.ofFile file? = .ok c ∧ c.withEnvironment env = .ok c' ∧
      s.config = c'.withFlags flags ∧
      s.config.nonInteractive = (flags.nonInteractive ||
        ((env "HNET_NON_INTERACTIVE").map Config.meansYes).getD c.nonInteractive) ∧
      s.config.recovery = c.recovery

/-- The environment may say whether questions are asked, and leaves the policy as it is. -/
theorem withEnvironment_eq_ok {c c' : Config} {env : String → Option String}
    (h : c.withEnvironment env = .ok c') :
    c'.nonInteractive =
        ((env "HNET_NON_INTERACTIVE").map Config.meansYes).getD c.nonInteractive ∧
      c'.recovery = c.recovery := by
  unfold Config.withEnvironment at h
  cases hport : Config.given? env Config.portVariable with
  | none =>
    rw [hport] at h
    cases h
    exact ⟨rfl, rfl⟩
  | some text =>
    cases hread : Config.port text with
    | error flaw =>
      simp only [hport, hread] at h
      cases h
    | ok port =>
      simp only [hport, hread] at h
      cases h
      exact ⟨rfl, rfl⟩

/-- A setting with a secret. -/
def plainSetting : Setting :=
  ⟨{ daemonAddress := "[::1]", daemonSecret? := some "secret" }, false, ⟨none, "", none⟩,
    ⟨"", "", ""⟩, 0⟩

/-! ### What is asked for -/

/-- A part of a run asks what it consists of, and tells its errors. -/
theorem branch_attempt_iff {α ε : Type} {tell : ε → Trace} {d : Asking (Except ε α)} {log : Log}
    {result : Except Trace α} :
    (attempt tell d).run.Branch log result ↔
      ∃ outcome, d.Branch log outcome ∧ result = outcome.mapError tell := by
  show (d.bind fun outcome => done (outcome.mapError tell)).Branch log result ↔ _
  rw [branch_bind_iff]
  constructor
  · rintro ⟨first, outcome, rest, hd, hdone, rfl⟩
    obtain ⟨rfl, rfl⟩ := branch_done_iff.mp hdone
    exact ⟨outcome, (List.append_nil first).symm ▸ hd, rfl⟩
  · rintro ⟨outcome, hd, rfl⟩
    exact ⟨log, outcome, [], hd, .done _, (List.append_nil log).symm⟩

/-- What is told of the value of a part of a run is not sent, so all that is sent is sent by that part. -/
theorem exists_part {α ε : Type} {tell : ε → Trace} {d : Asking (Except ε α)} {text : α → String}
    {log : Log} {result : Except Trace Unit}
    (h : (attempt tell d >>= fun value => always (print (text value))).run.Branch log result) :
    ∃ part last outcome, log = part ++ last ∧
      (∀ request told, (⟨.send request, told⟩ : Exchange Call Call.Answer) ∉ last) ∧
      d.Branch part outcome ∧ result = (outcome.map fun _ => ()).mapError tell := by
  obtain ⟨e, hpart, rfl⟩ | ⟨part, value, last, hpart, htell, rfl⟩ := branch_run_bind_iff.mp h
  · obtain ⟨outcome, hd, hresult⟩ := branch_attempt_iff.mp hpart
    refine ⟨log, [], outcome, (List.append_nil log).symm, fun _ _ => List.not_mem_nil, hd, ?_⟩
    cases outcome with
    | error cause =>
      cases hresult
      rfl
    | ok _ => cases hresult
  · obtain ⟨outcome, hd, hresult⟩ := branch_attempt_iff.mp hpart
    obtain ⟨_, rfl, hprint⟩ := branch_run_liftM_iff.mp htell
    obtain rfl := branch_query_iff.mp hprint
    refine ⟨part, _, outcome, rfl, fun request told hmem => ?_, hd, ?_⟩
    · cases List.mem_singleton.mp hmem
    · cases outcome with
      | error cause => cases hresult
      | ok _ => rfl

theorem branch_findPlaces {env : String → Option String} {log : Log} {places : Places}
    (h : (findPlaces env).Branch log places) : ∀ x ∈ log, x.question = .accountHome := by
  unfold findPlaces at h
  split at h
  · obtain ⟨rfl, _⟩ := branch_done_iff.mp h
    exact fun _ hx => absurd hx List.not_mem_nil
  · obtain ⟨first, home?, rest, hhome, hdone, rfl⟩ := branch_bind_iff.mp h
    obtain rfl := branch_query_iff.mp hhome
    obtain ⟨rfl, _⟩ := branch_done_iff.mp hdone
    intro x hx
    rw [List.append_nil] at hx
    rw [List.mem_singleton.mp hx]

/-- What loading the configuration comes to, and what is asked of files for it. -/
theorem branch_loadConfig {p : Places} {env : String → Option String} {log : Log}
    {result : Except Trace Config} (h : (loadConfig p env).Branch log result) :
    ∃ files, log = files.map ofFiles ∧ ∀ c', result = .ok c' → ∃ path file? c,
      p.configFile? = some path ∧ (Config.readIfThere path).Branch files file? ∧
        Config.ofFile file? = .ok c ∧ c.withEnvironment env = .ok c' := by
  obtain ⟨e, hpath, rfl⟩ | ⟨first, path, rest, hpath, hload, rfl⟩ := branch_run_bind_iff.mp h
  · obtain ⟨rfl, _⟩ := branch_done_iff.mp hpath
    exact ⟨[], rfl, fun _ hok => nomatch hok⟩
  · obtain ⟨rfl, hplace⟩ := branch_done_iff.mp hpath
    have hread : ∀ {inner : Log} {read : Except Trace Config},
        ((Host.onFiles (Config.loadFrom path)).bind fun read =>
          done (read.mapError Config.LoadError.trace)).Branch inner read →
        ∃ files, inner = files.map ofFiles ∧ ∀ c, read = .ok c → ∃ file?,
          (Config.readIfThere path).Branch files file? ∧ Config.ofFile file? = .ok c := by
      intro inner read hinner
      obtain ⟨first, loaded, last, hfirst, hlast, rfl⟩ := branch_bind_iff.mp hinner
      obtain ⟨rfl, rfl⟩ := branch_done_iff.mp hlast
      obtain ⟨files, hfiles, rfl⟩ := branch_onFiles hfirst
      obtain ⟨files, file?, last, hfile, hlast, rfl⟩ := branch_bind_iff.mp hfiles
      obtain ⟨rfl, rfl⟩ := branch_done_iff.mp hlast
      rw [List.append_nil, List.append_nil]
      refine ⟨files, rfl, fun c hc => ⟨file?, hfile, ?_⟩⟩
      cases hloaded : Config.ofFile file? with
      | error e => rw [hloaded] at hc; cases hc
      | ok c' => rw [hloaded] at hc; cases hc; rfl
    obtain ⟨e, hloaded, rfl⟩ | ⟨second, c, last, hloaded, hlast, rfl⟩ :=
      branch_run_bind_iff.mp hload
    · obtain ⟨files, rfl, _⟩ := hread hloaded
      exact ⟨files, rfl, fun _ hok => nomatch hok⟩
    · obtain ⟨files, rfl, hfile⟩ := hread hloaded
      obtain ⟨file?, hfile, hc⟩ := hfile c rfl
      obtain ⟨rfl, rfl⟩ := branch_done_iff.mp hlast
      refine ⟨files, List.append_nil _, fun c' hc' => ⟨path, file?, c, ?_, hfile, hc, ?_⟩⟩
      · cases hconfig : p.configFile? with
        | none => rw [Places.configFile, hconfig] at hplace; cases hplace
        | some place => rw [Places.configFile, hconfig] at hplace; cases hplace; rfl
      · cases henv : c.withEnvironment env with
        | error e => rw [henv] at hc'; cases hc'
        | ok given => rw [henv] at hc'; cases hc'; rfl

theorem idle_of_home {home : Log} {files : List (Exchange Files.Call Files.Call.Answer)}
    (hhome : ∀ x ∈ home, x.question = .accountHome) : Idle (home ++ files.map ofFiles) := by
  rintro ⟨question, answer⟩ hx
  rcases List.mem_append.mp hx with hx | hx
  · have hquestion : question = .accountHome := hhome _ hx
    subst hquestion
    exact ⟨rfl, rfl⟩
  · obtain ⟨x, _, heq⟩ := List.mem_map.mp hx
    rw [← heq]
    exact ⟨rfl, rfl⟩

/-- **What is known when a command is run**, or else that nothing was done. -/
theorem found_of_branch {flags : Config.Flags} {env : String → Option String} {release : Release}
    {rounds : Nat} {log : Log} {result : Except Trace Setting}
    (h : (findSetting flags env release rounds).run.Branch log result) :
    Idle log ∧ ∀ s, result = .ok s → Found flags env log s := by
  obtain ⟨e, hplaces, _⟩ | ⟨home, places, rest, hplaces, hrest, rfl⟩ := branch_run_bind_iff.mp h
  · obtain ⟨_, hok, _⟩ := branch_run_liftM_iff.mp hplaces
    cases hok
  · obtain ⟨_, hok, hplaces⟩ := branch_run_liftM_iff.mp hplaces
    cases hok
    have hhome := branch_findPlaces hplaces
    obtain ⟨e, hloaded, rfl⟩ | ⟨first, c, last, hloaded, hlast, rfl⟩ :=
      branch_run_bind_iff.mp hrest
    · obtain ⟨_, hload, _⟩ := branch_attempt_iff.mp hloaded
      obtain ⟨files, rfl, _⟩ := branch_loadConfig hload
      exact ⟨idle_of_home hhome, fun _ hok => nomatch hok⟩
    · obtain ⟨loaded, hload, hresult⟩ := branch_attempt_iff.mp hloaded
      obtain ⟨files, rfl, hconfig⟩ := branch_loadConfig hload
      obtain ⟨rfl, rfl⟩ := branch_done_iff.mp hlast
      rw [List.append_nil]
      refine ⟨idle_of_home hhome, fun s hs => ?_⟩
      cases loaded with
      | error e => cases hresult
      | ok c' =>
        cases hresult
        cases hs
        obtain ⟨path, file?, c, hpath, hfile, hc, henv⟩ := hconfig _ rfl
        obtain ⟨hmute, hpolicy⟩ := withEnvironment_eq_ok henv
        exact ⟨home, files, path, file?, c, _, rfl, hhome, hpath, hfile, hc, henv, rfl,
          congrArg (flags.nonInteractive || ·) hmute, hpolicy⟩

end MeshControl.CommandLine
