import MeshControl.Daemon.Client
import MeshControl.Host.Call

/-!
# Reaching the daemon from a machine

Where the daemon is and where its secret comes from; with that, each question of a call is one to the
machine.
-/

namespace MeshControl.Daemon

/-- Where the daemon is and where its secret comes from. -/
structure Access where
  base : BaseUrl
  /-- Stands for the secret in the secret file. -/
  secret? : Option String
  secretPath : String
  deriving DecidableEq, Repr

namespace Access

/-- The answer of the machine to a question of an attempt. -/
def answerLink (a : Access) : (q : Link.Call) → Host.Asking q.Answer
  | .secret => Host.onFiles (Secret.resolve a.secret? a.secretPath)
  | .send request => Host.send request

/-- An attempt made on the machine. -/
def onHost {α : Type} (a : Access) (d : Link.Asking α) : Host.Asking α :=
  d.answerWith a.answerLink

/-- The answer of the machine to a question of a call; `recovery` brings the daemon back up. -/
def answerCall (a : Access) (recovery : Host.Asking (Except Error Unit)) :
    (q : Client.Call) → Host.Asking q.Answer
  | .link question => a.answerLink question
  | .recover => recovery

/-- A call made on the machine. -/
def callOnHost {α : Type} (a : Access) (recovery : Host.Asking (Except Error Unit))
    (d : Client.Asking α) : Host.Asking α :=
  d.answerWith (a.answerCall recovery)

end Access

end MeshControl.Daemon
