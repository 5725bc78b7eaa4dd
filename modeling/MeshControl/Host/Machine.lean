import MeshControl.Files.Tree
import MeshControl.Host.Programs

/-!
# A machine in memory

A machine given by its parts: a tree of files, an input, programs that do what they are said to do, and
a network.  Every question has its answer on it, so a command can be tried out on a machine of one's
choice and looked at afterwards: what it wrote, which programs it ran and which requests were served.
A program is a file that may be run; it is looked for along the search path unless its name has a
slash in it.
-/

namespace MeshControl.Host

open MeshControl.Text

/-- A program on a machine. -/
structure Program where
  out : String := ""
  err : String := ""
  ending : Ending := .exited 0
  deriving DecidableEq, Repr, Inhabited

/-- What a machine is connected to. -/
structure Network where
  /-- Nothing is within reach. -/
  isCut : Bool := false
  /-- Somebody listens. -/
  isUp : Bool := true
  /-- What is answered, request by request. -/
  answers : List (Except Http.Failure Http.Answer) := []
  /-- The last answer is given again and again. -/
  repeats : Bool := true

/-- Whether a secured connection can be made to a host by its name: the name has at most 253 characters,
its labels have at most 63 letters, digits, hyphens and underscores each, no label begins or ends in a
hyphen, and the last one is no number. -/
def isServerName (host : String) : Bool :=
  let labels := host.toList.splitOn '.'
  let labels := if labels.getLast? = some [] then labels.dropLast else labels
  let isLabel (label : List Char) : Bool :=
    !label.isEmpty && label.length ≤ 63 && label.all (fun c => c.isAlphanum || c == '-' || c == '_')
      && label.head? != some '-' && label.getLast? != some '-'
  host.length ≤ 253 && labels.all isLabel && labels.getLast?.any (!·.all Char.isDigit)

/-- Why a request fails if nothing is within reach: an address cannot be connected to, and the address
of a name cannot even be asked for. -/
def Network.causes (url : Http.Url) : List String :=
  "client error (Connect)" ::
    if url.host.startsWith "[" ∨ (Address.V4.ofChars? url.host.toList).isSome
        ∨ url.host = "localhost" then
      ["tcp connect error", "Network is unreachable (os error 101)"]
    else if url.scheme = "https" ∧ !isServerName url.host then ["invalid dns name"]
    else
      ["dns error", "failed to lookup address information: Temporary failure in name resolution"]

/-- A machine. -/
structure Machine where
  tree : Files.Tree := {}
  input : List UInt8 := []
  isTerminal : Bool := false
  isSuperuser : Bool := false
  /-- The home that the user's account has. -/
  accountHome? : Option String := none
  /-- The directories, between colons, in which programs are looked for. -/
  searchPath : String := ""
  /-- What the files do that are programs. -/
  programs : List (Files.Place × Program) := []
  /-- The programs that bring the server up when they are run. -/
  starters : List String := []
  network : Network := {}
  out : String := ""
  err : String := ""
  /-- The programs that were run, with their arguments. -/
  commands : List String := []
  /-- The requests that were served. -/
  requests : List Http.Request := []
  /-- Milliseconds of pauses. -/
  elapsed : Nat := 0

namespace Machine

/-- What happens to a request. -/
def send (m : Machine) (r : Http.Request) : Except Http.Failure Http.Answer × Machine :=
  match m.network.isCut, m.network.isUp, m.network.answers with
  | true, _, _ => (.error (.broken (Network.causes r.url)), m)
  | false, false, _ => (.error .refused, m)
  | false, true, [] =>
    if m.network.repeats then (.ok ⟨404, []⟩, { m with requests := m.requests ++ [r] })
    else (.error (.broken ["connection closed before message completed"]), m)
  | false, true, answer :: rest =>
    let left := if rest.isEmpty && m.network.repeats then [answer] else rest
    (answer, { m with
      requests := m.requests ++ [r]
      network := { m.network with answers := left } })

/-- The machine with a program in a directory. -/
def withProgram (m : Machine) (directory name : String) (p : Program) : Machine :=
  let path := Files.join directory name
  let tree := m.tree.withFile path []
  match tree.place path with
  | .ok place => { m with
      tree := tree.put place (.file [] Files.Tree.programMode)
      programs := (place, p) :: m.programs }
  | .error _ => m

/-- The place of the program that a name stands for.  What is searched for is looked at only as far as
makes it too long. -/
def locate (m : Machine) (name : String) : Except Files.Error Files.Place :=
  if name.isEmpty then .error .notFound
  else if name.toList.contains '/' then m.tree.runnable name
  else
    let name := String.ofList (name.toList.take (Files.nameLimit + 1))
    m.tree.firstRunnable .notFound (candidates m.searchPath name)

/-- The most bytes that an argument of a program has. -/
def argumentLimit : Nat := 131071

/-- Starts a program: what it does, and the machine after it has begun.  No word handed to a program
holds the character that ends words, and none is longer than the limit. -/
def start (m : Machine) (name : String) (arguments : List String) :
    Except String (Program × Machine) := do
  if (name :: arguments).any fun word => word.toList.contains Files.endOfName then
    throw "nul byte found in provided data"
  let place ← (m.locate name).mapError Files.Error.message
  if arguments.any fun word => argumentLimit < word.utf8ByteSize then
    throw "Argument list too long (os error 7)"
  match m.programs.lookup place with
  | some p =>
    let name := place.getLast?.getD ""
    return (p, { m with
      commands := m.commands ++ [" ".intercalate (name :: arguments)]
      network := { m.network with isUp := m.network.isUp || m.starters.contains name } })
  | none => throw "Exec format error (os error 8)"

/-- The answer to a question, and the machine after it. -/
def answer (m : Machine) : (q : Call) → q.Answer × Machine
  | .files q => let (a, tree) := m.tree.answer q; (a, { m with tree := tree })
  | .send r => m.send r
  | .capture name arguments _ =>
    match m.start name arguments with
    | .error cause => (.error (.notStarted cause), m)
    | .ok (p, m) => (.ok ⟨p.ending, Utf8.encode p.out, Utf8.encode p.err⟩, m)
  | .attach name arguments =>
    match m.start name arguments with
    | .error cause => (.error cause, m)
    | .ok (p, m) => (.ok p.ending, { m with out := m.out ++ p.out, err := m.err ++ p.err })
  | .pause ms => ((), { m with elapsed := m.elapsed + ms })
  | .print text => ((), { m with out := m.out ++ text })
  | .complain text => ((), { m with err := m.err ++ text })
  | .readLine => let (line, rest) := takeLine m.input; (.ok line, { m with input := rest })
  | .readHidden =>
    if m.isTerminal then
      let (typed, rest) := takeHidden m.input
      (.ok typed, { m with input := rest })
    else (.error "Inappropriate ioctl for device (os error 25)", m)
  | .isSuperuser => (m.isSuperuser, m)
  | .accountHome => (m.accountHome?, m)

/-- Holds a dialogue with a machine. -/
def run {α : Type} (m : Machine) (d : Asking α) : α × Machine :=
  d.run answer m

end Machine

end MeshControl.Host
