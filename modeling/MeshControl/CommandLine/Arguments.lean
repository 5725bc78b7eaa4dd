import MeshControl.Text.Digits

/-!
# Arguments of a command line

A command line is a row of words.  Names of commands lead down to a command; every other word is an
option, the value of an option or a plain argument.  What may stand where is said by a `Grammar`, and
`Grammar.read` takes the words one by one.

An option is written `--name`, `--name value` or `--name=value`, or `-n` by its letter, letters of
several options together.  A value that begins with a minus sign has to stand behind an equals sign.
After `--` every word is a plain argument.  An option that is given again on the same level is refused
unless it may be repeated; given again further down, it replaces what was given above.
-/

namespace MeshControl.CommandLine

open MeshControl.Text

/-- The number below a bound that a text writes in decimal.  A plus sign may stand in front, and a
minus sign before zero if signs are allowed. -/
def number? (bound : Nat) (isSigned : Bool) (text : String) : Option Nat :=
  let number := match text.toList with
    | '+' :: digits => decimal? digits
    | '-' :: digits => if isSigned then (decimal? digits).filter (· = 0) else none
    | digits => decimal? digits
  number.filter (· < bound)

/-- What may stand as the value of an option. -/
inductive ValueKind where
  | text
  | number (bound : Nat) (isSigned : Bool)
  deriving DecidableEq, Repr

/-- Whether a text may stand as a value. -/
def ValueKind.accepts : ValueKind → String → Bool
  | text, _ => true
  | number bound isSigned, s => (number? bound isSigned s).isSome

/-- Why words do not lead to a command that is to be run. -/
inductive Stop where
  /-- The words do not follow the grammar. -/
  | refused
  /-- The user asks for help. -/
  | help
  /-- The user asks for the version. -/
  | version
  deriving DecidableEq, Repr

/-- An option. -/
structure OptionForm where
  name : String
  letter? : Option Char := none
  /-- What its value has to be, if it takes one. -/
  value? : Option ValueKind := none
  repeats : Bool := false
  /-- Reading ends with this option. -/
  stop? : Option Stop := none
  deriving DecidableEq, Repr

/-- A command: the names that lead to it, its options, and how many plain arguments it takes. -/
structure CommandForm where
  words : List String
  options : List OptionForm := []
  least : Nat := 0
  /-- The greatest number of plain arguments, if there is one. -/
  most? : Option Nat := some 0
  deriving DecidableEq, Repr

/-- The commands of a program and the options that may stand with each of them. -/
structure Grammar where
  globals : List OptionForm
  commands : List CommandForm

/-- What words that follow the grammar say. -/
structure Arguments where
  /-- The names that lead to the command. -/
  words : List String
  /-- The options with their values in the order in which they are given; a flag has no value. -/
  options : List (String × String)
  plain : List String
  deriving DecidableEq, Repr, Inhabited

namespace Arguments

/-- The values that an option is given. -/
def texts (a : Arguments) (name : String) : List String :=
  (a.options.filter (·.1 == name)).map Prod.snd

/-- The value of an option, the last one if there are several. -/
def text? (a : Arguments) (name : String) : Option String :=
  (a.texts name).getLast?

/-- Whether an option is given. -/
def has (a : Arguments) (name : String) : Bool :=
  (a.text? name).isSome

end Arguments

/-- How far reading has come. -/
structure Reading where
  words : List String := []
  /-- The options given on the levels above. -/
  above : List (String × String) := []
  /-- The options given on this level. -/
  here : List (String × String) := []
  plain : List String := []
  /-- The option whose value comes next. -/
  awaiting? : Option OptionForm := none
  /-- All words to come are plain arguments. -/
  isLiteral : Bool := false
  /-- All words to come are names of commands to be explained. -/
  isHelp : Bool := false

namespace Grammar

/-- The command that names lead to. -/
def command? (g : Grammar) (words : List String) : Option CommandForm :=
  g.commands.find? (·.words == words)

/-- Whether names lead to a command or can go on to one. -/
def leads (g : Grammar) (words : List String) : Bool :=
  g.commands.any fun c => words.isPrefixOf c.words

/-- Whether names can go on. -/
def goesOn (g : Grammar) (words : List String) : Bool :=
  g.commands.any fun c => words.isPrefixOf c.words && words != c.words

/-- The option that asks for help. -/
def helpOption : OptionForm := { name := "help", letter? := some 'h', stop? := some .help }

/-- The option that asks for the version. -/
def versionOption : OptionForm := { name := "version", letter? := some 'V', stop? := some .version }

/-- The options that may be given where some names have led. -/
def optionsAt (g : Grammar) (words : List String) : List OptionForm :=
  helpOption :: (if words.isEmpty then [versionOption] else []) ++ g.globals
    ++ ((g.command? words).map CommandForm.options).getD []

/-- Takes an option with its value. -/
def give (r : Reading) (o : OptionForm) (value : String) : Except Stop Reading :=
  match o.stop? with
  | some stop => .error stop
  | none =>
    if !o.repeats && r.here.any (·.1 == o.name) then .error .refused
    else if o.value?.all (·.accepts value) then
      .ok { r with here := r.here ++ [(o.name, value)], awaiting? := none }
    else .error .refused

/-- Takes an option given by name, the two minus signs left out. -/
def takeLong (g : Grammar) (r : Reading) (text : List Char) : Except Stop Reading :=
  let name := String.ofList (text.takeWhile (· ≠ '='))
  match (g.optionsAt r.words).find? (·.name == name), text.dropWhile (· ≠ '=') with
  | none, _ => .error .refused
  | some o, '=' :: value => if o.value?.isSome then give r o (String.ofList value) else .error .refused
  | some o, _ => if o.value?.isSome then .ok { r with awaiting? := some o } else give r o ""

/-- Takes a flag given by its letter. -/
def takeLetter (g : Grammar) (r : Reading) (letter : Char) : Except Stop Reading :=
  match (g.optionsAt r.words).find? (·.letter? == some letter) with
  | some o => if o.value?.isSome then .error .refused else give r o ""
  | none => .error .refused

/-- Takes a plain argument. -/
def takePlain (g : Grammar) (r : Reading) (word : String) : Except Stop Reading :=
  match g.command? r.words with
  | none => .error .refused
  | some c =>
    if c.most?.all (r.plain.length < ·) then .ok { r with plain := r.plain ++ [word] }
    else .error .refused

/-- Goes down by a name. -/
def descend (r : Reading) (word : String) : Reading :=
  { r with words := r.words ++ [word], above := r.above ++ r.here, here := [] }

/-- Takes a word that is not an option: a name that leads on, or a plain argument. -/
def takeName (g : Grammar) (r : Reading) (word : String) : Except Stop Reading :=
  if g.leads (r.words ++ [word]) then .ok (descend r word)
  else if r.isHelp then .error .refused
  else if word == "help" && g.goesOn r.words then .ok { r with isHelp := true }
  else g.takePlain r word

/-- Takes the next word. -/
def step (g : Grammar) (r : Reading) (word : String) : Except Stop Reading :=
  if r.isLiteral then g.takePlain r word
  else if r.isHelp then g.takeName r word
  else
    match r.awaiting?, word.toList with
    | some _, '-' :: _ :: _ => .error .refused
    | some o, _ => give r o word
    | none, ['-', '-'] => .ok { r with isLiteral := true }
    | none, '-' :: '-' :: text => g.takeLong r text
    | none, '-' :: c :: letters => (c :: letters).foldlM g.takeLetter r
    | none, _ => g.takeName r word

/-- What has been read once there are no more words. -/
def finish (g : Grammar) (r : Reading) : Except Stop Arguments :=
  if r.isHelp then .error .help
  else if r.awaiting?.isSome then .error .refused
  else
    match g.command? r.words with
    | none => .error .refused
    | some c =>
      if c.least ≤ r.plain.length then .ok ⟨r.words, r.above ++ r.here, r.plain⟩ else .error .refused

/-- Reads a row of words. -/
def read (g : Grammar) (words : List String) : Except Stop Arguments := do
  g.finish (← words.foldlM g.step {})

end Grammar

end MeshControl.CommandLine
