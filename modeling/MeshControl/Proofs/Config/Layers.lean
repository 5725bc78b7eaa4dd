import Mathlib.Tactic.SplitIfs
import MeshControl.Config.Layers
import MeshControl.Proofs.Except

/-!
# Which layer a setting comes from

The settings come in layers: the command line, the environment, the file, and below them the defaults.
A layer gives some settings and leaves the others alone (`Layer`), and every setting has the value of the
highest layer that gives it (`settled`).

Reading the file, the environment and the command line lays each of them over what is below it
(`Layer.onto`), with one exception, which `layered` states exactly: a variable `HNET_NON_INTERACTIVE` that
is set to nothing still hides what the file says.
-/

namespace MeshControl.Config

open MeshControl.Json MeshControl.Text

variable {c d : Config} {env : String → Option String}

/-! ### Layers -/

/-- The settings that a layer gives. -/
structure Layer where
  daemonAddress? : Option String := none
  daemonPort? : Option UInt16 := none
  daemonSecret? : Option String := none
  dashboardUrl? : Option String := none
  logLevel? : Option String := none
  nonInteractive? : Option Bool := none
  waitInterval? : Option UInt64 := none
  waitAttempts? : Option UInt32 := none
  recovery? : Option RecoveryPolicy := none
  serviceName? : Option String := none
  daemonBinary? : Option String := none

/-- The configuration in which every setting has the value of the first of the layers that gives it, and
its default if none does. -/
def settled (layers : List Layer) : Config :=
  let defaults : Config := {}
  { daemonAddress := (layers.findSome? Layer.daemonAddress?).getD defaults.daemonAddress
    daemonPort := (layers.findSome? Layer.daemonPort?).getD defaults.daemonPort
    daemonSecret? := layers.findSome? Layer.daemonSecret?
    dashboardUrl := (layers.findSome? Layer.dashboardUrl?).getD defaults.dashboardUrl
    logLevel := (layers.findSome? Layer.logLevel?).getD defaults.logLevel
    nonInteractive := (layers.findSome? Layer.nonInteractive?).getD defaults.nonInteractive
    waitInterval := (layers.findSome? Layer.waitInterval?).getD defaults.waitInterval
    waitAttempts := (layers.findSome? Layer.waitAttempts?).getD defaults.waitAttempts
    recovery := (layers.findSome? Layer.recovery?).getD defaults.recovery
    serviceName := (layers.findSome? Layer.serviceName?).getD defaults.serviceName
    daemonBinary := (layers.findSome? Layer.daemonBinary?).getD defaults.daemonBinary }

/-- A text without the plus sign in front. -/
def withoutPlus : List Char → List Char
  | '+' :: rest => rest
  | cs => cs

namespace Layer

/-- A configuration under a layer. -/
def onto (layer : Layer) (c : Config) : Config :=
  { daemonAddress := layer.daemonAddress?.getD c.daemonAddress
    daemonPort := layer.daemonPort?.getD c.daemonPort
    daemonSecret? := layer.daemonSecret?.or c.daemonSecret?
    dashboardUrl := layer.dashboardUrl?.getD c.dashboardUrl
    logLevel := layer.logLevel?.getD c.logLevel
    nonInteractive := layer.nonInteractive?.getD c.nonInteractive
    waitInterval := layer.waitInterval?.getD c.waitInterval
    waitAttempts := layer.waitAttempts?.getD c.waitAttempts
    recovery := layer.recovery?.getD c.recovery
    serviceName := layer.serviceName?.getD c.serviceName
    daemonBinary := layer.daemonBinary?.getD c.daemonBinary }

/-- The settings that the fields of a configuration file give.  A secret that is null is not given. -/
def ofFields (fields : Fields) : Layer where
  daemonAddress? := (fields.find? "daemon_api_address").bind Node.text?
  daemonPort? := (fields.find? "daemon_api_port").bind fun n => (n.below? UInt16.size).map UInt16.ofNat
  daemonSecret? := ((fields.find? "daemon_api_secret").bind (Node.nullable? Node.text?)).getD none
  dashboardUrl? := (fields.find? "dashboard_url").bind Node.text?
  logLevel? := (fields.find? "log_level").bind Node.text?
  nonInteractive? := (fields.find? "non_interactive").bind Node.bool?
  waitInterval? := (fields.find? "wait_interval_ms").bind fun n =>
    (n.below? UInt64.size).map UInt64.ofNat
  waitAttempts? := (fields.find? "wait_max_attempts").bind fun n =>
    (n.below? UInt32.size).map UInt32.ofNat
  recovery? := (fields.find? "recovery").bind fun n => n.choice?.bind RecoveryPolicy.ofName?
  serviceName? := (fields.find? "service_name").bind Node.text?
  daemonBinary? := (fields.find? "daemon_binary").bind Node.text?

/-- The settings that a file gives. -/
def ofFile : Option (Except Files.Error String) → Layer
  | some (.ok text) => (((Node.ofText? text).bind (Node.fields? fieldNames)).map ofFields).getD {}
  | _ => {}

/-- The port that a text writes in decimal digits, with or without a plus sign. -/
def writtenPort? (text : String) : Option UInt16 :=
  ((decimal? (withoutPlus text.toList)).filter (· < UInt16.size)).map UInt16.ofNat

/-- The settings that the environment gives.  A variable that is set to nothing gives nothing. -/
def ofEnvironment (env : String → Option String) : Layer where
  daemonAddress? := given? env "HNET_DAEMON_API_ADDRESS"
  daemonPort? := (given? env portVariable).bind writtenPort?
  daemonSecret? := given? env "HNET_DAEMON_API_SECRET"
  dashboardUrl? := given? env "HNET_DASHBOARD_URL"
  nonInteractive? := (given? env "HNET_NON_INTERACTIVE").map meansYes

/-- The settings that are taken from the environment: those it gives, and for questions also a no where the
variable is set to nothing. -/
def ofVariables (env : String → Option String) : Layer :=
  { ofEnvironment env with nonInteractive? := (env "HNET_NON_INTERACTIVE").map meansYes }

/-- The settings that the command line gives.  Questions can be switched off there, but not on. -/
def ofFlags (flags : Flags) : Layer where
  daemonAddress? := flags.daemonAddress?
  daemonPort? := flags.daemonPort?
  daemonSecret? := flags.daemonSecret?
  nonInteractive? := if flags.nonInteractive then some true else none

end Layer

theorem getD_findSome?_cons {α β : Type} (get? : α → Option β) (a : α) (as : List α) (default : β) :
    ((a :: as).findSome? get?).getD default = (get? a).getD ((as.findSome? get?).getD default) := by
  rw [List.findSome?_cons]
  cases get? a <;> rfl

/-- A layer on top of others lies over what is settled by them. -/
theorem settled_cons (layer : Layer) (layers : List Layer) :
    settled (layer :: layers) = layer.onto (settled layers) := by
  have hsecret : (layer :: layers).findSome? Layer.daemonSecret? =
      layer.daemonSecret?.or (layers.findSome? Layer.daemonSecret?) := by
    rw [List.findSome?_cons]
    cases layer.daemonSecret? <;> rfl
  simp only [settled, Layer.onto, getD_findSome?_cons, hsecret]

theorem settled_nil : settled [] = {} :=
  rfl

/-! ### The command line -/

theorem withFlags_eq_onto (c : Config) (flags : Flags) :
    c.withFlags flags = (Layer.ofFlags flags).onto c := by
  have hmute : (flags.nonInteractive || c.nonInteractive) =
      (if flags.nonInteractive then some true else none).getD c.nonInteractive := by
    cases flags.nonInteractive <;> rfl
  simp only [withFlags, Layer.onto, Layer.ofFlags, Option.getD_none, hmute]

/-! ### The environment -/

/-- Digits behind a number make it no smaller. -/
theorem le_of_continueNumber? {start n : Nat} {cs : List Char}
    (h : continueNumber? decimalValue? 10 start cs = some n) : start ≤ n := by
  induction cs generalizing start with
  | nil => exact Nat.le_of_eq (Option.some.inj h)
  | cons c rest ih =>
    obtain ⟨d, -, hrest⟩ := Option.bind_eq_some_iff.mp h
    have hle : 10 * start + d ≤ n := ih hrest
    omega

/-- Reading stops at the first digit that makes the number too large.  No later digit can make it small
again, so what is read are the numbers that are small enough in the end. -/
theorem toOption_continuePort {start : Nat} {cs : List Char} (hstart : start < UInt16.size) :
    (continuePort start cs).toOption =
      (continueNumber? decimalValue? 10 start cs).filter (· < UInt16.size) := by
  induction cs generalizing start with
  | nil =>
    rw [continuePort, continueNumber?, Option.filter_some, if_pos (decide_eq_true hstart)]
    rfl
  | cons c rest ih =>
    rw [continuePort, continueNumber?]
    cases decimalValue? c with
    | none => rfl
    | some d =>
      rw [Option.bind_some]
      dsimp only
      split_ifs with hsmall
      · exact ih hsmall
      · -- here reading stops, so nothing may be left of what the digits make up
        refine (Option.filter_eq_none_iff.mpr fun n hnumber => ?_).symm
        have hle := le_of_continueNumber? hnumber
        rw [decide_eq_true_iff]
        omega

/-- A text is read as a port exactly if it writes one. -/
theorem toOption_port (text : String) : (port text).toOption = Layer.writtenPort? text := by
  have hport : port text = if (withoutPlus text.toList).isEmpty then .error .notDecimal
      else (continuePort 0 (withoutPlus text.toList)).map UInt16.ofNat := rfl
  rw [hport, Layer.writtenPort?, decimal?]
  split_ifs
  · rfl
  · rw [← toOption_continuePort (by decide)]
    cases continuePort 0 (withoutPlus text.toList) <;> rfl

/-- The variable for the port is set to something that is no port. -/
def HasBadPort (env : String → Option String) : Prop :=
  ∃ text, given? env portVariable = some text ∧ Layer.writtenPort? text = none

/-- The environment is refused for its port or lies over what is below it. -/
theorem withEnvironment_cases (c : Config) (env : String → Option String) :
    (HasBadPort env ∧ ∃ e, c.withEnvironment env = .error e) ∨
      (¬HasBadPort env ∧ c.withEnvironment env = .ok ((Layer.ofVariables env).onto c)) := by
  cases hgiven : given? env portVariable with
  | none =>
    have hgood : ¬HasBadPort env := by
      rintro ⟨text, hsome, -⟩
      cases hgiven.symm.trans hsome
    refine .inr ⟨hgood, ?_⟩
    simp only [withEnvironment, Layer.onto, Layer.ofVariables, Layer.ofEnvironment, hgiven]
    rfl
  | some text =>
    have hwritten := toOption_port text
    cases hport : port text with
    | error flaw =>
      rw [hport] at hwritten
      refine .inl ⟨⟨text, hgiven, hwritten.symm⟩, .badPort text flaw, ?_⟩
      simp only [withEnvironment, hgiven, hport]
      rfl
    | ok p =>
      rw [hport] at hwritten
      have hp : Layer.writtenPort? text = some p := hwritten.symm
      -- the variable holds this text and no other
      have hgood : ¬HasBadPort env := by
        rintro ⟨other, hother, hbad⟩
        obtain rfl := Option.some.inj (hgiven.symm.trans hother)
        cases hp.symm.trans hbad
      refine .inr ⟨hgood, ?_⟩
      simp only [withEnvironment, Layer.onto, Layer.ofVariables, Layer.ofEnvironment, hgiven, hport,
        Option.bind_some, hp]
      rfl

/-! ### The file -/

/-- The file is there but holds no configuration that can be read. -/
def HasBadFile (file? : Option (Except Files.Error String)) : Prop :=
  ∃ contents, file? = some contents ∧ ∀ text, contents = .ok text → ofFileText? text = none

theorem get?_eq_some {α : Type} {fields : Fields} {name : String} {decode? : Node → Option α}
    {default value : α} (h : fields.get? name decode? default = some value) :
    ((fields.find? name).bind decode?).getD default = value := by
  rw [Fields.get?] at h
  cases hfield : fields.find? name with
  | none =>
    rw [hfield] at h
    exact Option.some.inj h
  | some node =>
    rw [hfield] at h
    rw [Option.bind_some, show decode? node = some value from h, Option.getD_some]

/-- A record that is read lies over the defaults. -/
theorem ofNode?_eq_some {node : Node} (h : ofNode? node = some c) :
    ∃ fields, node.fields? fieldNames = some fields ∧ c = (Layer.ofFields fields).onto {} := by
  simp only [ofNode?, Fields.bool?, bind, pure, Option.bind_eq_some_iff, Option.some.injEq] at h
  obtain ⟨fields, hfields, address, haddress, port, hport, secret?, hsecret, url, hurl, level, hlevel, mute,
    hmute, interval, hinterval, attempts, hattempts, policy, hpolicy, service, hservice, binary, hbinary,
    rfl⟩ := h
  refine ⟨fields, hfields, ?_⟩
  simp only [Layer.onto, Layer.ofFields, get?_eq_some haddress, get?_eq_some hport, get?_eq_some hsecret,
    get?_eq_some hurl, get?_eq_some hlevel, get?_eq_some hmute, get?_eq_some hinterval,
    get?_eq_some hattempts, get?_eq_some hpolicy, get?_eq_some hservice, get?_eq_some hbinary,
    Option.or_none]

/-- The file is refused or lies over the defaults. -/
theorem ofFile_cases (file? : Option (Except Files.Error String)) :
    (HasBadFile file? ∧ ∃ e, ofFile file? = .error e) ∨
      (¬HasBadFile file? ∧ ofFile file? = .ok ((Layer.ofFile file?).onto {})) := by
  obtain _ | cause | text := file?
  · have hgood : ¬HasBadFile none := by
      rintro ⟨contents, hsome, -⟩
      cases hsome
    exact .inr ⟨hgood, rfl⟩
  · exact .inl ⟨⟨.error cause, rfl, nofun⟩, .unreadable cause, rfl⟩
  · cases hread : ofFileText? text with
    | none =>
      refine .inl ⟨⟨.ok text, rfl, fun other hother => ?_⟩, .malformed, ?_⟩
      · exact Except.ok.inj hother ▸ hread
      · rw [ofFile, hread]
    | some c =>
      have hgood : ¬HasBadFile (some (.ok text)) := by
        rintro ⟨contents, hcontents, hbad⟩
        cases hread.symm.trans (hbad text (Option.some.inj hcontents).symm)
      obtain ⟨node, hnode, hc⟩ := Option.bind_eq_some_iff.mp hread
      obtain ⟨fields, hfields, rfl⟩ := ofNode?_eq_some hc
      refine .inr ⟨hgood, ?_⟩
      rw [ofFile, hread]
      simp only [Layer.ofFile, hnode, hfields, Option.bind_some, Option.map_some, Option.getD_some]

/-! ### All layers -/

/-- Loading fails if the file or the port is bad, and otherwise settles what the environment and the file
give. -/
theorem load_cases (file? : Option (Except Files.Error String)) (env : String → Option String) :
    ((HasBadFile file? ∨ HasBadPort env) ∧ ∃ e, load file? env = .error e) ∨
      (¬(HasBadFile file? ∨ HasBadPort env) ∧
        load file? env = .ok (settled [.ofVariables env, .ofFile file?])) := by
  rcases ofFile_cases file? with ⟨hbad, e, he⟩ | ⟨hfile, hok⟩
  · exact .inl ⟨.inl hbad, e, by rw [load, he]; rfl⟩
  · have hload : load file? env = ((Layer.ofFile file?).onto {}).withEnvironment env := by
      rw [load, hok]
      rfl
    rcases withEnvironment_cases ((Layer.ofFile file?).onto {}) env with ⟨hbad, e, he⟩ | ⟨hport, henv⟩
    · exact .inl ⟨.inr hbad, e, hload.trans he⟩
    · refine .inr ⟨not_or.mpr ⟨hfile, hport⟩, ?_⟩
      rw [hload, henv, settled_cons, settled_cons, settled_nil]

/-- Only a variable that is set to nothing is taken otherwise than it is set. -/
theorem given?_eq_of_ne {name : String} (h : env name ≠ some "") : given? env name = env name := by
  rw [given?]
  cases htext : env name with
  | none => rfl
  | some text =>
    have hne : text ≠ "" := fun heq => h (by rw [htext, heq])
    rw [Option.filter_some, if_pos (by simpa using hne)]

/-- A no that is taken from an empty variable matters only where the file says yes and the command line
says nothing. -/
theorem settled_ofVariables_eq_iff (flags : Flags) (env : String → Option String) (file : Layer) :
    settled [.ofFlags flags, .ofVariables env, file] =
        settled [.ofFlags flags, .ofEnvironment env, file] ↔
      ¬(env "HNET_NON_INTERACTIVE" = some "" ∧ flags.nonInteractive = false ∧
        file.nonInteractive? = some true) := by
  by_cases hempty : env "HNET_NON_INTERACTIVE" = some ""
  · have hgiven : given? env "HNET_NON_INTERACTIVE" = none := by
      rw [given?, hempty]
      rfl
    have hno : meansYes "" = false := by decide
    -- the two rows of layers differ in what they say about questions alone
    simp only [settled, Config.mk.injEq, List.findSome?_cons, List.findSome?_nil, Layer.ofFlags,
      Layer.ofVariables, Layer.ofEnvironment, hgiven, hempty, Option.map_some, Option.map_none, hno,
      true_and, and_true]
    cases flags.nonInteractive with
    | true => simp
    | false =>
      cases file.nonInteractive? with
      | none => simp
      | some mute => cases mute <;> simp
  · have hsame : Layer.ofVariables env = Layer.ofEnvironment env := by
      rw [Layer.ofVariables, ← given?_eq_of_ne hempty]
      rfl
    rw [hsame]
    exact iff_of_true rfl fun h => hempty h.1

/-- **Every setting comes from the highest layer that gives it.**  Loading fails exactly if there is a file
that holds no configuration or the variable for the port is set to something that is no port.  What is
loaded is, under the command line, what the layers settle, where an empty variable for questions counts as a
no; so it is what they settle by the rule that an empty variable gives nothing unless that no hides a yes of
the file which the command line does not repeat. -/
theorem layered (file? : Option (Except Files.Error String)) (env : String → Option String)
    (flags : Flags) :
    ((∃ e, load file? env = .error e) ↔ HasBadFile file? ∨ HasBadPort env) ∧
    ∀ c, load file? env = .ok c →
      c.withFlags flags = settled [.ofFlags flags, .ofVariables env, .ofFile file?] ∧
      (c.withFlags flags = settled [.ofFlags flags, .ofEnvironment env, .ofFile file?] ↔
        ¬(env "HNET_NON_INTERACTIVE" = some "" ∧ flags.nonInteractive = false ∧
          (Layer.ofFile file?).nonInteractive? = some true)) := by
  rcases load_cases file? env with ⟨hbad, e, he⟩ | ⟨hgood, hok⟩
  · refine ⟨iff_of_true ⟨e, he⟩ hbad, fun c hc => ?_⟩
    cases he.symm.trans hc
  · refine ⟨iff_of_false (fun ⟨e, he⟩ => ?_) hgood, fun c hc => ?_⟩
    · cases he.symm.trans hok
    · obtain rfl := Except.ok.inj (hok.symm.trans hc)
      have hlaid : (settled [.ofVariables env, .ofFile file?]).withFlags flags =
          settled [.ofFlags flags, .ofVariables env, .ofFile file?] := by
        rw [withFlags_eq_onto, ← settled_cons]
      exact ⟨hlaid, by rw [hlaid, settled_ofVariables_eq_iff]⟩

/-- A file that switches questions off. -/
def quietFile : Option (Except Files.Error String) :=
  some (.ok "\x7b\"non_interactive\":true,\"daemon_api_port\":1\x7d")

/-- An environment that gives the port and sets another variable to nothing. -/
def portEnvironment (name : String) : Option String :=
  [("HNET_DAEMON_API_PORT", "+8080"), ("HNET_DASHBOARD_URL", "")].lookup name

/-- An environment in which the variable for questions is set to nothing. -/
def emptiedEnvironment (name : String) : Option String :=
  [("HNET_NON_INTERACTIVE", "")].lookup name

theorem layered_quietFile : ∃ c, load quietFile portEnvironment = .ok c ∧
    c.withFlags { daemonAddress? := some "fc94::1" } =
      { daemonAddress := "fc94::1", daemonPort := 8080, nonInteractive := true } := by
  have hok : (load quietFile portEnvironment).isOk = true := by decide +kernel
  obtain ⟨c, hc⟩ := exists_eq_ok_of_isOk hok
  have hlayered := layered quietFile portEnvironment { daemonAddress? := some "fc94::1" }
  have hsettled : settled [.ofFlags { daemonAddress? := some "fc94::1" }, .ofVariables portEnvironment,
      .ofFile quietFile] =
      { daemonAddress := "fc94::1", daemonPort := 8080, nonInteractive := true } := by
    decide +kernel
  exact ⟨c, hc, (hlayered.2 c hc).1.trans hsettled⟩

/-- An empty variable is to give nothing, yet it switches questions on against the file. -/
theorem quietFile_overruled :
    (load quietFile emptiedEnvironment).toOption.map (fun c => (c.withFlags {}).nonInteractive) =
        some false ∧
      (settled [.ofFlags {}, .ofEnvironment emptiedEnvironment,
        .ofFile quietFile]).nonInteractive = true := by
  decide +kernel

end MeshControl.Config
