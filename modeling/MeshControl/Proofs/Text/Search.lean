import MeshControl.Text.Search

/-!
# Text around a mark

A text is split at its first mark, so there is no mark in what comes before it, and characters in
front that are no marks stay in front.  What stands in a text with a mark stands on one side of the
mark, unless the mark is part of it; so what stands in texts that are written one after another,
with marks between them, stands in one of them (`infix_intercalate_iff`).
-/

namespace MeshControl.Text

theorem splitFirst?_eq_none_iff {mark : Char} {cs : List Char} :
    splitFirst? mark cs = none ↔ mark ∉ cs := by
  induction cs with
  | nil => simp [splitFirst?]
  | cons c cs ih =>
    by_cases h : c = mark
    · simp [splitFirst?, h]
    · simp [splitFirst?, h, ih, Ne.symm h]

theorem splitFirst?_eq_some {mark : Char} {cs before after : List Char}
    (h : splitFirst? mark cs = some (before, after)) :
    cs = before ++ mark :: after ∧ mark ∉ before := by
  induction cs generalizing before with
  | nil => cases h
  | cons c cs ih =>
    by_cases hc : c = mark
    · rw [splitFirst?, if_pos hc] at h
      cases h
      exact ⟨by rw [hc]; rfl, List.not_mem_nil⟩
    · rw [splitFirst?, if_neg hc] at h
      obtain ⟨⟨before', _⟩, hsplit, heq⟩ := Option.map_eq_some_iff.mp h
      cases heq
      obtain ⟨rfl, hnot⟩ := ih hsplit
      refine ⟨rfl, fun hmem => ?_⟩
      rcases List.mem_cons.mp hmem with heq | hmem
      · exact hc heq.symm
      · exact hnot hmem

theorem splitFirst?_append {mark : Char} {front : List Char} (h : mark ∉ front) (cs : List Char) :
    splitFirst? mark (front ++ cs) =
      (splitFirst? mark cs).map fun (before, after) => (front ++ before, after) := by
  induction front with
  | nil => exact Option.map_id'.symm
  | cons c front ih =>
    obtain ⟨hc, hfront⟩ := not_or.mp fun hmem => h (List.mem_cons.mpr hmem)
    rw [List.cons_append, splitFirst?, if_neg (Ne.symm hc), ih hfront]
    cases splitFirst? mark cs <;> rfl

theorem splitFirst?_mark {mark : Char} {before : List Char} (h : mark ∉ before)
    (after : List Char) :
    splitFirst? mark (before ++ mark :: after) = some (before, after) := by
  rw [splitFirst?_append h, splitFirst?, if_pos rfl]
  show some (before ++ [], after) = _
  rw [List.append_nil]

/-! ### Occurrences -/

theorem occursIn_iff {needle cs : List Char} : occursIn needle cs = true ↔ needle <:+: cs := by
  induction cs with
  | nil => simp [occursIn]
  | cons c cs ih =>
    rw [occursIn, Bool.or_eq_true, ih, List.isPrefixOf_iff_prefix, List.infix_cons_iff]

theorem contains_iff {text needle : String} :
    contains text needle = true ↔ needle.toList <:+: text.toList :=
  occursIn_iff

variable {α : Type} {needle front rest gap : List α} {mark : α}

theorem prefix_append_mark_iff (h : mark ∉ needle) :
    needle <+: front ++ mark :: rest ↔ needle <+: front := by
  induction front generalizing needle with
  | nil =>
    cases needle with
    | nil => simp
    | cons c needle =>
      have hne : c ≠ mark := fun heq => h (heq ▸ List.mem_cons_self)
      simp [List.cons_prefix_cons, hne]
  | cons d front ih =>
    cases needle with
    | nil => simp
    | cons c needle =>
      have htail : mark ∉ needle := fun hmem => h (List.mem_cons_of_mem c hmem)
      rw [List.cons_append, List.cons_prefix_cons, List.cons_prefix_cons, ih htail]

/-- What has no mark in it stands on one side of a mark. -/
theorem infix_append_mark_iff (h : mark ∉ needle) :
    needle <:+: front ++ mark :: rest ↔ needle <:+: front ∨ needle <:+: rest := by
  induction front with
  | nil =>
    have hprefix : needle <+: mark :: rest ↔ needle = [] := by
      rw [← List.nil_append (mark :: rest), prefix_append_mark_iff h, List.prefix_nil]
    rw [List.nil_append, List.infix_cons_iff, hprefix, List.infix_nil]
  | cons d front ih =>
    rw [List.cons_append, List.infix_cons_iff, ih, ← List.cons_append, prefix_append_mark_iff h,
      List.infix_cons_iff, or_assoc]

/-- What does not begin with a character of a gap stands behind the gap. -/
theorem infix_gap_append_iff (hne : needle ≠ []) (h : ∀ c ∈ needle.head?, c ∉ gap) :
    needle <:+: gap ++ rest ↔ needle <:+: rest := by
  induction gap with
  | nil => rfl
  | cons d gap ih =>
    obtain ⟨c, tail, rfl⟩ := List.exists_cons_of_ne_nil hne
    have hc : c ∉ d :: gap := h c rfl
    have hnot : ¬ c :: tail <+: d :: (gap ++ rest) := by
      intro hprefix
      exact hc ((List.cons_prefix_cons.mp hprefix).1 ▸ List.mem_cons_self)
    have htail := ih fun x hx hmem => h x hx (List.mem_cons_of_mem d hmem)
    rw [List.cons_append, List.infix_cons_iff, or_iff_right hnot, htail]

/-- **No occurrence straddles a separator.** What has no mark in it, and does not begin as the rest
of a separator does, stands in texts with such separators between them if and only if it stands in
one of the texts. -/
theorem infix_intercalate_iff (hmark : mark ∉ needle) (hne : needle ≠ [])
    (hgap : ∀ c ∈ needle.head?, c ∉ gap) (parts : List (List α)) :
    needle <:+: (mark :: gap).intercalate parts ↔ ∃ part ∈ parts, needle <:+: part := by
  induction parts with
  | nil => simpa using hne
  | cons part parts ih =>
    cases parts with
    | nil => simp
    | cons next parts =>
      rw [List.intercalate_cons_cons, List.append_assoc, List.cons_append,
        infix_append_mark_iff hmark, infix_gap_append_iff hne hgap, ih]
      simp

end MeshControl.Text
