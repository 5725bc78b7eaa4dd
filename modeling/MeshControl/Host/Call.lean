import MeshControl.Files.Call
import MeshControl.Http.Message

/-!
# What a command asks of the machine

Everything outside a command: files, the network, other programs, the clock and the terminal.  A
command is a dialogue over these questions, so what it does is what it asks, in the order in which it
asks, and a statement about all answers is a statement about all machines.
-/

namespace MeshControl.Host

/-- How a program ended. -/
inductive Ending where
  | exited (code : Nat)
  | killed (signal : Nat)
  deriving DecidableEq, Repr, Inhabited

/-- Why a program did not run to its end. -/
inductive RunError where
  | notStarted (cause : String)
  | timedOut
  deriving DecidableEq, Repr

/-- What a program left behind. -/
structure Output where
  ending : Ending
  out : List UInt8
  err : List UInt8
  deriving DecidableEq, Repr, Inhabited

/-- A question to the machine. -/
inductive Call where
  | files (question : Files.Call)
  /-- Send a request and wait for the answer. -/
  | send (request : Http.Request)
  /-- Run a program and keep what it writes; it is stopped after some seconds. -/
  | capture (program : String) (arguments : List String) (seconds : Nat)
  /-- Run a program that reads from and writes to the terminal itself. -/
  | attach (program : String) (arguments : List String)
  | pause (milliseconds : Nat)
  /-- Write to standard output. -/
  | print (text : String)
  /-- Write to standard error. -/
  | complain (text : String)
  /-- Read a line with its line break; without a break only at the end of the input. -/
  | readLine
  /-- Read from the terminal without showing what is typed, up to a byte that ends a password. -/
  | readHidden
  /-- Does the user have all rights? -/
  | isSuperuser
  /-- The home that the user's account has. -/
  | accountHome
  deriving Repr

/-- The kind of answer to a question. -/
abbrev Call.Answer : Call → Type
  | files question => question.Answer
  | send _ => Except Http.Failure Http.Answer
  | capture _ _ _ => Except RunError Output
  | attach _ _ => Except String Ending
  | pause _ | print _ | complain _ => Unit
  | readLine | readHidden => Except String (List UInt8)
  | isSuperuser => Bool
  | accountHome => Option String

/-- A dialogue with the machine. -/
abbrev Asking (α : Type) := Dialogue Call Call.Answer α

/-- A dialogue about files as one with the machine. -/
def onFiles {α : Type} (d : Files.Asking α) : Asking α :=
  d.answerWith fun q => Dialogue.query (Call.files q)

/-- Writes a text to a file. -/
def writeFile (path text : String) : Asking (Except Files.Error Unit) :=
  Dialogue.query (Call.files (.write path text))

/-- Sends a request. -/
def send (request : Http.Request) : Asking (Except Http.Failure Http.Answer) :=
  Dialogue.query (Call.send request)

/-- Runs a program and keeps what it writes. -/
def capture (program : String) (arguments : List String) (seconds : Nat) :
    Asking (Except RunError Output) :=
  Dialogue.query (Call.capture program arguments seconds)

/-- Runs a program on the terminal. -/
def attach (program : String) (arguments : List String) : Asking (Except String Ending) :=
  Dialogue.query (Call.attach program arguments)

/-- Waits. -/
def pause (milliseconds : Nat) : Asking Unit :=
  Dialogue.query (Call.pause milliseconds)

/-- Writes to standard output. -/
def print (text : String) : Asking Unit :=
  Dialogue.query (Call.print text)

/-- Writes a line to standard output. -/
def printLine (text : String) : Asking Unit :=
  print (text ++ "\n")

/-- Writes to standard error. -/
def complain (text : String) : Asking Unit :=
  Dialogue.query (Call.complain text)

/-- Reads the text of a line with its line break. -/
def readLine : Asking (Except String String) := do
  let bytes : Except String (List UInt8) ← Dialogue.query Call.readLine
  return bytes.bind fun bytes => (Files.textOf bytes).mapError Files.Error.message

/-- Reads what is typed without showing it. -/
def readHidden : Asking (Except String (List UInt8)) :=
  Dialogue.query Call.readHidden

/-- Whether the user has all rights. -/
def isSuperuser : Asking Bool :=
  Dialogue.query Call.isSuperuser

/-- The home that the user's account has. -/
def accountHome : Asking (Option String) :=
  Dialogue.query Call.accountHome

/-- The first line of an input with its line break, and what follows it. -/
def takeLine (input : List UInt8) : List UInt8 × List UInt8 :=
  match input with
  | [] => ([], [])
  | b :: rest =>
    if b = 0x0A then ([b], rest) else let (line, after) := takeLine rest; (b :: line, after)

/-- Whether a byte ends what is typed without being shown: a line break, or a key that gives up. -/
def endsHidden (b : UInt8) : Bool :=
  b = 0x00 || b = 0x03 || b = 0x04 || b = 0x0A || b = 0x0D

/-- What is typed without being shown up to the byte that ends it, and what follows. -/
def takeHidden (input : List UInt8) : List UInt8 × List UInt8 :=
  match input with
  | [] => ([], [])
  | b :: rest =>
    if endsHidden b then ([b], rest) else let (typed, after) := takeHidden rest; (b :: typed, after)

end MeshControl.Host
