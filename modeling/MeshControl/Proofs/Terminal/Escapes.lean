import MeshControl.Terminal.Style

/-!
# Escape sequences and visible width

The scan for visible characters takes everything from an escape character to the next ASCII letter
for one sequence.  A text is `Finished` if each of its sequences reaches its letter.  These are the
texts that keep apart from what is written behind them: `visible` distributes over what follows a
text exactly if the text is finished (`finished_iff_visible_append`), so widths may be added then
and only then.

A text that is not finished ends inside a sequence (`finished_or_unfinished`).  Set off in a style,
such a text eats the sequence that ends the style; the width is that of the text all the same
(`visibleWidth_apply`), because the eaten sequence has no width and nothing stands behind it.
-/

namespace MeshControl.Terminal

open MeshControl.Text

variable {cs ds inner rest : List Char} {c : Char}

/-! ### One sequence -/

/-- Characters without a letter do not end a sequence. -/
theorem afterEscape_append (h : ∀ c ∈ inner, isAsciiLetter c = false) (rest : List Char) :
    afterEscape (inner ++ rest) = afterEscape rest := by
  induction inner with
  | nil => rfl
  | cons c inner ih =>
    obtain ⟨hc, hinner⟩ := List.forall_mem_cons.mp h
    rw [List.cons_append, afterEscape, hc, if_neg Bool.false_ne_true, ih hinner]

/-- A letter ends a sequence. -/
theorem afterEscape_letter (h : isAsciiLetter c = true) : afterEscape (c :: rest) = rest := by
  rw [afterEscape, if_pos h]

theorem visible_escape (rest : List Char) :
    visible ('\x1b' :: rest) = visible (afterEscape rest) := by
  rw [visible, if_pos rfl]

theorem visible_cons (h : c ≠ '\x1b') (rest : List Char) :
    visible (c :: rest) = c :: visible rest := by
  rw [visible, if_neg h]

/-- A sequence that reaches its letter is not seen. -/
theorem visible_sequence (hinner : ∀ c ∈ inner, isAsciiLetter c = false)
    (hletter : isAsciiLetter c = true) (rest : List Char) :
    visible ('\x1b' :: (inner ++ c :: rest)) = visible rest := by
  rw [visible_escape, afterEscape_append hinner, afterEscape_letter hletter]

/-- A sequence that does not reach its letter hides the rest of the text. -/
theorem visible_unfinished (hinner : ∀ c ∈ inner, isAsciiLetter c = false) :
    visible ('\x1b' :: inner) = [] := by
  have hafter := afterEscape_append hinner []
  rw [List.append_nil] at hafter
  rw [visible_escape, hafter, afterEscape, visible]

/-! ### Finished texts -/

/-- A text whose escape sequences all reach their letters. -/
inductive Finished : List Char → Prop where
  | nil : Finished []
  | char {c : Char} {rest : List Char} : c ≠ '\x1b' → Finished rest → Finished (c :: rest)
  | sequence {inner : List Char} {letter : Char} {rest : List Char} :
      (∀ c ∈ inner, isAsciiLetter c = false) → isAsciiLetter letter = true → Finished rest →
        Finished ('\x1b' :: (inner ++ letter :: rest))

theorem Finished.append (hcs : Finished cs) (hds : Finished ds) : Finished (cs ++ ds) := by
  induction hcs with
  | nil => exact hds
  | char hc _ ih => exact .char hc ih
  | sequence hinner hletter _ ih =>
    rw [List.cons_append, List.append_assoc, List.cons_append]
    exact .sequence hinner hletter ih

/-- **What follows a finished text** is seen as if it stood alone. -/
theorem Finished.visible_append (hcs : Finished cs) (ds : List Char) :
    visible (cs ++ ds) = visible cs ++ visible ds := by
  induction hcs with
  | nil => rw [List.nil_append, visible, List.nil_append]
  | char hc _ ih => rw [List.cons_append, visible_cons hc, visible_cons hc, ih, List.cons_append]
  | sequence hinner hletter _ ih =>
    rw [List.cons_append, List.append_assoc, List.cons_append, visible_sequence hinner hletter,
      visible_sequence hinner hletter, ih]

/-- A text without an escape character is finished, and all of it is seen. -/
theorem finished_and_visible_of_plain (h : '\x1b' ∉ cs) : Finished cs ∧ visible cs = cs := by
  induction cs with
  | nil => exact ⟨.nil, by rw [visible]⟩
  | cons c cs ih =>
    obtain ⟨hc, hcs⟩ := not_or.mp fun hmem => h (List.mem_cons.mpr hmem)
    obtain ⟨hfinished, hvisible⟩ := ih hcs
    exact ⟨.char (Ne.symm hc) hfinished, by rw [visible_cons (Ne.symm hc), hvisible]⟩

/-- The characters after an escape character reach a letter or they do not. -/
theorem reaches_letter_or (cs : List Char) :
    (∃ inner letter rest, (∀ c ∈ inner, isAsciiLetter c = false) ∧ isAsciiLetter letter = true ∧
      cs = inner ++ letter :: rest) ∨ ∀ c ∈ cs, isAsciiLetter c = false := by
  induction cs with
  | nil => exact .inr (by simp)
  | cons c cs ih =>
    cases hc : isAsciiLetter c with
    | true => exact .inl ⟨[], c, cs, by simp, hc, rfl⟩
    | false =>
      obtain ⟨inner, letter, rest, hinner, hletter, rfl⟩ | hnone := ih
      · exact .inl ⟨c :: inner, letter, rest, List.forall_mem_cons.mpr ⟨hc, hinner⟩, hletter, rfl⟩
      · exact .inr (List.forall_mem_cons.mpr ⟨hc, hnone⟩)

/-- A text is finished, or it is a finished text with the beginning of a sequence behind it. -/
theorem finished_or_unfinished (cs : List Char) :
    Finished cs ∨ ∃ before inner, Finished before ∧ (∀ c ∈ inner, isAsciiLetter c = false) ∧
      cs = before ++ '\x1b' :: inner := by
  -- by the recursion of the scan, which takes a whole sequence away at once
  induction cs using visible.induct with
  | case1 => exact .inl .nil
  | case2 rest ih =>
    obtain ⟨inner, letter, rest, hinner, hletter, rfl⟩ | hnone := reaches_letter_or rest
    · rw [afterEscape_append hinner, afterEscape_letter hletter] at ih
      obtain hrest | ⟨before, cut, hbefore, hcut, rfl⟩ := ih
      · exact .inl (.sequence hinner hletter hrest)
      · refine .inr ⟨'\x1b' :: (inner ++ letter :: before), cut,
          .sequence hinner hletter hbefore, hcut, ?_⟩
        simp
    · exact .inr ⟨[], rest, .nil, hnone, rfl⟩
  | case3 c rest hc ih =>
    obtain hrest | ⟨before, cut, hbefore, hcut, rfl⟩ := ih
    · exact .inl (.char hc hrest)
    · exact .inr ⟨c :: before, cut, .char hc hbefore, hcut, rfl⟩

/-- **Exactly the finished texts leave alone what follows them**: a text that is not finished hides
the first letter behind it. -/
theorem finished_iff_visible_append (cs : List Char) :
    Finished cs ↔ ∀ ds, visible (cs ++ ds) = visible cs ++ visible ds := by
  refine ⟨fun h => h.visible_append, fun h => ?_⟩
  obtain hfinished | ⟨before, inner, hbefore, hinner, rfl⟩ := finished_or_unfinished cs
  · exact hfinished
  · -- the open sequence would take the letter for its end
    have hm := h ['m']
    rw [List.append_assoc, List.cons_append, hbefore.visible_append, hbefore.visible_append,
      visible_sequence hinner (by decide), visible_unfinished hinner,
      visible_cons (by decide)] at hm
    simp [visible] at hm

/-! ### Styles -/

/-- Characters that are looked at one by one. -/
theorem forall_not_letter (h : cs.all (!isAsciiLetter ·) = true) :
    ∀ c ∈ cs, isAsciiLetter c = false := by
  intro c hc
  simpa using List.all_eq_true.mp h c hc

/-- The sequence that begins a style has no letter before its last character. -/
theorem Style.isAsciiLetter_opening (style : Style) :
    ∀ c ∈ '[' :: style.code.toList, isAsciiLetter c = false := by
  cases style <;> exact forall_not_letter (by decide)

theorem Style.toList_apply (style : Style) (s : String) :
    (style.apply s).toList =
      '\x1b' :: ('[' :: style.code.toList ++ 'm' :: (s.toList ++ ['\x1b', '[', '0', 'm'])) := by
  simp [Style.apply]

/-- Only the text is seen of a text in a style, be the text finished or not. -/
theorem visible_apply (style : Style) (s : String) :
    visible (style.apply s).toList = visible s.toList := by
  have hreset : ∀ c ∈ ['[', '0'], isAsciiLetter c = false := forall_not_letter (by decide)
  have hm : isAsciiLetter 'm' = true := by decide
  rw [style.toList_apply, visible_sequence style.isAsciiLetter_opening hm]
  obtain hfinished | ⟨before, cut, hbefore, hcut, hs⟩ := finished_or_unfinished s.toList
  · have hend : visible ['\x1b', '[', '0', 'm'] = [] := by
      rw [show ['\x1b', '[', '0', 'm'] = '\x1b' :: (['[', '0'] ++ ['m']) from rfl,
        visible_sequence hreset hm, visible]
    rw [hfinished.visible_append, hend, List.append_nil]
  · -- the open sequence runs on to the letter of the sequence that ends the style
    have hrun : ∀ c ∈ cut ++ ['\x1b', '[', '0'], isAsciiLetter c = false :=
      List.forall_mem_append.mpr ⟨hcut, forall_not_letter (by decide)⟩
    have heaten : visible ('\x1b' :: (cut ++ ['\x1b', '[', '0', 'm'])) = [] := by
      rw [show cut ++ ['\x1b', '[', '0', 'm'] = (cut ++ ['\x1b', '[', '0']) ++ ['m'] by simp,
        visible_sequence hrun hm, visible]
    rw [hs, List.append_assoc, List.cons_append, hbefore.visible_append, hbefore.visible_append,
      heaten, visible_unfinished hcut]

/-- **A style takes no room.** -/
theorem visibleWidth_apply (style : Style) (s : String) :
    visibleWidth (style.apply s) = visibleWidth s := by
  rw [visibleWidth, visible_apply, visibleWidth]

theorem Finished.apply (style : Style) {s : String} (h : Finished s.toList) :
    Finished (style.apply s).toList := by
  have hinner : ∀ c ∈ ['[', '0'], isAsciiLetter c = false := forall_not_letter (by decide)
  have hreset : Finished ['\x1b', '[', '0', 'm'] := .sequence hinner (by decide) .nil
  rw [style.toList_apply]
  exact .sequence style.isAsciiLetter_opening (by decide) (h.append hreset)

end MeshControl.Terminal
