import MeshControl.Text.MarkTable
import MeshControl.Text.VisibleTable

/-!
# Marks

Marks attach to the letter before them.  Some take room of their own beside it (the vowel signs of
many writing systems), the others stand above, below or in it; both kinds together are the category
`M`.
-/

namespace MeshControl.Text

/-- Whether a character is a mark that takes room of its own. -/
def isSpacingMark (c : Char) : Bool :=
  onRun spacingMarkRuns c.toNat

/-- Whether a character is a mark that takes no room.  The non-joiner and the tags attach to the
character before them and are no marks. -/
def isNonspacingMark (c : Char) : Bool :=
  onRun attachedRuns c.toNat && !isSpacingMark c
    && !onRun [⟨0x200C, 0x200C, 1⟩, ⟨0xE0020, 0xE007F, 1⟩] c.toNat

/-- Whether a character is a mark. -/
def isMark (c : Char) : Bool :=
  isSpacingMark c || isNonspacingMark c

/-- The combining class of a character: zero for letters and for marks that keep their place. -/
def markClass (c : Char) : Nat :=
  ((markClasses.find? fun (_, runs) => onRun runs c.toNat).map Prod.fst).getD 0

end MeshControl.Text
