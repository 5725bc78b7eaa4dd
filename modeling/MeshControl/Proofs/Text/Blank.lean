import Mathlib.Data.List.TakeWhile
import MeshControl.Proofs.Text.Digits
import MeshControl.Text.Blank

/-!
# Texts without blanks

A text without a blank is left as it is when blanks are taken from its ends, and no digit is a blank.
-/

namespace MeshControl.Text

theorem trimStart_eq_self {cs : List Char} (h : ∀ c ∈ cs, isBlank c = false) :
    trimStart cs = cs := by
  refine List.dropWhile_eq_self_iff.mpr fun hpos => ?_
  rw [h _ (List.getElem_mem hpos)]
  exact Bool.false_ne_true

theorem trim_eq_self {cs : List Char} (h : ∀ c ∈ cs, isBlank c = false) : trim cs = cs := by
  have hreverse : cs.reverse.dropWhile isBlank = cs.reverse :=
    trimStart_eq_self fun c hc => h c (List.mem_reverse.mp hc)
  rw [trim, trimStart_eq_self h, trimEnd, hreverse, List.reverse_reverse]

/-- No hexadecimal digit is a blank. -/
theorem isBlank_of_hex {c : Char} (h : (hexValue? c).isSome = true) : isBlank c = false := by
  have hcode := toNat_of_hex h
  simp only [isBlank, Bool.or_eq_false_iff, Bool.and_eq_false_iff, decide_eq_false_iff_not,
    beq_eq_false_iff_ne]
  omega

end MeshControl.Text
