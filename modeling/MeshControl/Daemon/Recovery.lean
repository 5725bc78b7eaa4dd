import MeshControl.Config.Basic
import MeshControl.Daemon.Service
import MeshControl.Host.Confirmation
import MeshControl.Wait.Polling

/-!
# Bringing the daemon back up

When the daemon refuses a connection the user is asked for a yes, the service is restarted (and
installed before, if the policy says so), and the daemon is polled until it answers.  The polls are
single attempts: none of them can start another recovery.
-/

namespace MeshControl.Daemon

open MeshControl.Host MeshControl.Terminal

/-- How the daemon is brought back up. -/
structure Recovery where
  service : Service
  policy : RecoveryPolicy
  nonInteractive : Bool
  wait : Wait.Policy
  /-- Where programs are looked for. -/
  searchPath? : Option String
  deriving DecidableEq, Repr

namespace Recovery

/-- The question to the user. -/
def question : String := "Do you want to restart the daemon now?"

/-- What the user is told if the service cannot be restarted. -/
def restartWarning : String :=
  "Wasn't able to restart the daemon. Try restarting the service manually."

/-- Asks the user, unless the policy rules a restart out. -/
def isWanted (r : Recovery) : Asking (Except Error Unit) := do
  if r.policy = .never then return .error .declined
  match ← confirmUnless r.nonInteractive question with
  | .error cause => return .error (.unrecovered cause)
  | .ok false => return .error .declined
  | .ok true => return .ok ()

/-- Installs the service if that is the policy and it is missing. -/
def installIfMissing (r : Recovery) : Asking (Except Error Unit) := do
  if r.policy ≠ .installAndRestart then return .ok ()
  if ← r.service.isInstalled then return .ok ()
  return (← (r.service.install r.searchPath?).run).mapError .unrecovered

/-- Brings the daemon back up. -/
def run (r : Recovery) (access : Access) : Asking (Except Error Unit) := do
  print (infoLine "Daemon does not seem to be running")
  match ← r.isWanted with
  | .error e => return .error e
  | .ok () =>
    match ← r.installIfMissing with
    | .error e => return .error e
    | .ok () =>
      if let .error _ ← r.service.restart then complain (warningLine restartWarning)
      return (← Wait.onHost access r.wait [.daemonReachable]).mapError fun timeout =>
        .unrecovered ⟨timeout.message, []⟩

end Recovery

end MeshControl.Daemon
