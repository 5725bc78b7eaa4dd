import MeshControl.Host.Programs
import MeshControl.Identity.Search

/-!
# Generating identities

The daemon's program generates an identity each time it is run.
-/

namespace MeshControl.Identity

open MeshControl.Host

/-- The identity that a run of the generator has left behind. -/
def ofRun (program : String) : Except RunError Output → Except Trace Identity
  | .error e => .error ⟨"failed to run " ++ program ++ " --genid", [e.message]⟩
  | .ok output =>
    if output.ending.isSuccess then
      match ofOutput? (Text.Utf8.decodeLossy output.out) with
      | some identity => .ok identity
      | none => .error ⟨"unexpected output from " ++ program ++ " --genid", []⟩
    else
      .error ⟨program ++ " --genid exited with " ++ output.ending.text ++ ": " ++ output.complaint, []⟩

/-- Generates an identity. -/
def generate (program : String) : Asking (Except Trace Identity) := do
  return ofRun program (← capture program ["--genid"] 10)

/-- The answer of the machine to a question of a search. -/
def answerCall (program : String) : (q : Search.Call) → Asking q.Answer
  | .generate => do return (← generate program).mapError Trace.oneLine

/-- Searches for an identity on the machine; there is no result if the search breaks off. -/
def searchOnHost (program start : String) (workers attempts : Nat) :
    Asking (Option (Except SearchError (Option Identity))) :=
  (search start workers attempts).answerWith (answerCall program)

end MeshControl.Identity
