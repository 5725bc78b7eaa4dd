import Mathlib.Data.List.Basic
import MeshControl.Text.Letters

/-!
# The small form of texts that are joined

The small form of a character may depend on those around it, but only as far as the next break on
either side: a character that is neither a letter nor passed over (`IsBreak`).  So a text is put
into its small form between its breaks (`lowerChars_append_break`), and texts that are joined by
breaks one by one (`lowered_intercalate`).
-/

namespace MeshControl.Text

variable {b : Char} {before cs rest : List Char}

/-- A character at which words end, whatever stands around it. -/
structure IsBreak (b : Char) : Prop where
  notIgnorable : isCaseIgnorable b = false
  notCased : isCased b = false

theorem isCased_sigma : isCased 'Σ' = true := by decide +kernel

theorem IsBreak.ne_sigma (h : IsBreak b) : b ≠ 'Σ' := by
  rintro rfl
  exact Bool.false_ne_true (h.notCased.symm.trans isCased_sigma)

/-- Behind a break nothing is looked at. -/
theorem meetsCased_append_break (h : IsBreak b) (cs rest : List Char) :
    meetsCased (cs ++ b :: rest) = meetsCased cs := by
  have hbreak : (b :: rest).find? (!isCaseIgnorable ·) = some b := by
    rw [List.find?_cons_of_pos (by rw [h.notIgnorable]; rfl)]
  rw [meetsCased, meetsCased, List.find?_append, hbreak]
  cases cs.find? (!isCaseIgnorable ·) with
  | none => exact h.notCased
  | some c => rfl

theorem lowerAmong_break (h : IsBreak b) (before after : List Char) :
    lowerAmong before b after = lower b := by
  rw [lowerAmong, if_neg h.ne_sigma]

/-- Of what stands in front only the next letter counts. -/
theorem lowerChars_congr {before' : List Char} (h : meetsCased before = meetsCased before')
    (cs : List Char) : lowerChars before cs = lowerChars before' cs := by
  induction cs generalizing before before' with
  | nil => rfl
  | cons c cs ih =>
    have hnext : meetsCased (c :: before) = meetsCased (c :: before') := by
      unfold meetsCased at *
      rw [List.find?_cons, List.find?_cons]
      split
      · rfl
      · exact h
    rw [lowerChars, lowerChars, lowerAmong, lowerAmong, h, ih hnext]

/-- **A break cuts a text in two**, and each part is put into its small form for itself. -/
theorem lowerChars_append_break (h : IsBreak b) (before cs rest : List Char) :
    lowerChars before (cs ++ b :: rest) =
      lowerChars before cs ++ (lower b ++ lowerChars [] rest) := by
  induction cs generalizing before with
  | nil =>
    have hfront : meetsCased (b :: before) = meetsCased [] := meetsCased_append_break h [] before
    show lowerAmong before b rest ++ lowerChars (b :: before) rest = lower b ++ lowerChars [] rest
    rw [lowerAmong_break h, lowerChars_congr hfront]
  | cons c cs ih =>
    have hamong : lowerAmong before c (cs ++ b :: rest) = lowerAmong before c cs := by
      rw [lowerAmong, lowerAmong, meetsCased_append_break h]
    rw [List.cons_append, lowerChars, lowerChars, hamong, ih, List.append_assoc]

/-- Breaks at the beginning of a text. -/
theorem lowerChars_breaks_append {breaks : List Char} (h : ∀ b ∈ breaks, IsBreak b)
    (rest : List Char) :
    lowerChars [] (breaks ++ rest) = breaks.flatMap lower ++ lowerChars [] rest := by
  induction breaks with
  | nil => rfl
  | cons b breaks ih =>
    obtain ⟨hb, hbreaks⟩ := List.forall_mem_cons.mp h
    have hcut := lowerChars_append_break hb [] [] (breaks ++ rest)
    rw [List.nil_append] at hcut
    rw [List.cons_append, hcut, ih hbreaks, List.flatMap_cons, List.append_assoc]
    rfl

/-- Texts with breaks between them are put into their small form one by one. -/
theorem lowerChars_intercalate {breaks : List Char} (hne : breaks ≠ [])
    (h : ∀ b ∈ breaks, IsBreak b) (parts : List (List Char)) :
    lowerChars [] (breaks.intercalate parts) =
      (breaks.flatMap lower).intercalate (parts.map (lowerChars [])) := by
  obtain ⟨b, breaks, rfl⟩ := List.exists_cons_of_ne_nil hne
  obtain ⟨hb, hbreaks⟩ := List.forall_mem_cons.mp h
  induction parts with
  | nil => rfl
  | cons part parts ih =>
    cases parts with
    | nil => simp
    | cons next parts =>
      rw [List.map_cons, List.map_cons, List.intercalate_cons_cons, List.intercalate_cons_cons,
        List.append_assoc, List.cons_append, lowerChars_append_break hb,
        lowerChars_breaks_append hbreaks, ih, List.map_cons, List.flatMap_cons]
      simp

/-- **The small form of joined texts** is that of the texts, joined. -/
theorem lowered_intercalate {breaks : String} (hne : breaks.toList ≠ [])
    (h : ∀ b ∈ breaks.toList, IsBreak b) (parts : List String) :
    lowered (breaks.intercalate parts) =
      (String.ofList (breaks.toList.flatMap lower)).intercalate (parts.map lowered) := by
  have hparts : (parts.map lowered).map String.toList =
      (parts.map String.toList).map (lowerChars []) := by
    simp [lowered]
  rw [← String.toList_inj, String.toList_intercalate, hparts, String.toList_ofList, lowered,
    String.toList_ofList, String.toList_intercalate, lowerChars_intercalate hne h]

end MeshControl.Text
