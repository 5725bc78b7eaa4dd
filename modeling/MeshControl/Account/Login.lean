import MeshControl.Account.Session
import MeshControl.Host.Call
import MeshControl.Text.Blank
import MeshControl.Text.Quoted

/-!
# Asking who logs in

The name is read from a line of the input, the password is typed without being shown.  A password
ends with a line break; the key that deletes takes the byte before it back, and the keys that give up
mean that there is no password.
-/

namespace MeshControl.Account

open MeshControl.Text

/-- Credentials as diagnostics show them, without the password. -/
def Credentials.redacted (c : Credentials) : String :=
  "Credentials \x7b username: " ++ quoted c.username ++ ", password: " ++ quoted "<redacted>"
    ++ " \x7d"

/-- What is typed, given the bytes before it in reverse order; `none` if the user gave up. -/
def typed? (before : List UInt8) : List UInt8 → Option (List UInt8)
  | [] => some before.reverse
  | b :: rest =>
    if b = 0x0A ∨ b = 0x0D then some before.reverse
    else if b = 0x00 ∨ b = 0x03 ∨ b = 0x04 then none
    else if b = 0x7F then typed? before.tail rest
    else typed? (b :: before) rest

/-- The password that was typed. -/
def password (bytes : List UInt8) : Except Error String :=
  match typed? [] bytes with
  | none => .error (.loginFailed "no password given")
  | some bytes => (Utf8.decode bytes).mapError fun flaw => .prompt flaw.message

/-- Asks for a user name and a password. -/
def askCredentials : Host.Asking (Except Error Credentials) := ExceptT.run do
  Host.printLine "Please provide your dashboard credentials."
  Host.print "Username (email): "
  let line ← ExceptT.mk do return (← Host.readLine).mapError .prompt
  Host.print "Password: "
  let bytes ← ExceptT.mk do return (← Host.readHidden).mapError .prompt
  let password ← ExceptT.mk (return password bytes)
  Host.printLine ""
  let username := trimmed line
  if username.isEmpty then throw (.loginFailed "username must not be empty")
  return ⟨username, password⟩

/-- Asks for a user name and a password, unless nobody is to be asked. -/
def askCredentialsUnless (nonInteractive : Bool) : Host.Asking (Except Error Credentials) :=
  if nonInteractive then return .error .nonInteractive else askCredentials

end MeshControl.Account
