import MeshControl.Host.Confirmation
import MeshControl.Host.Programs
import MeshControl.Proofs.Dialogue.Guard

/-!
# Parts of commands

What small parts of commands ask of a machine, said once for all kinds of exchange: a part minds any
permission for a kind that has no part in its questions.
-/

namespace MeshControl.Host

open Dialogue

/-- What was asked of the machine, with the answers. -/
abbrev Log := List (Exchange Call Call.Answer)

variable {granted : Log → Prop} {deed : Exchange Call Call.Answer → Prop}

theorem minds_onFiles (hg : Lasting granted)
    (hfiles : ∀ question answer, ¬deed ⟨.files question, answer⟩) {α : Type} (d : Files.Asking α) :
    Minds granted deed (onFiles d) := by
  unfold onFiles
  refine minds_answerWith hg (fun question => ?_) d
  exact minds_query (hfiles question)

theorem minds_versionOf (hg : Lasting granted)
    (hcapture : ∀ program arguments seconds answer,
      ¬deed ⟨.capture program arguments seconds, answer⟩) (program : String) :
    Minds granted deed (versionOf program) := by
  unfold versionOf
  refine (minds_query (hcapture program ["--version"] 5)).bind_all hg fun answer => ?_
  cases answer with
  | error cause => exact minds_done _
  | ok output =>
    dsimp only
    split_ifs
    · exact minds_done _
    · exact minds_done _

/-- Asking for a yes writes a question and reads a line; where nobody is to be asked it does
neither. -/
theorem minds_confirmUnless (hg : Lasting granted) (hprint : ∀ text, ¬deed ⟨.print text, ()⟩)
    {nonInteractive : Bool} (hread : nonInteractive = true ∨ ∀ given, ¬deed ⟨.readLine, given⟩)
    (question : String) : Minds granted deed (confirmUnless nonInteractive question) := by
  cases nonInteractive with
  | true => exact minds_done _
  | false =>
    have hread : ∀ given, ¬deed ⟨.readLine, given⟩ := hread.resolve_left nofun
    have hquestion : Minds granted deed (print (questionText question)) :=
      minds_query fun _ => hprint _
    have hline : Minds granted deed readLine :=
      (minds_query hread).bind_all hg fun _ => minds_done _
    refine hquestion.bind_all hg fun _ => hline.bind_all hg fun answer => ?_
    cases answer with
    | ok line => exact minds_done _
    | error cause => exact minds_done _

end MeshControl.Host
