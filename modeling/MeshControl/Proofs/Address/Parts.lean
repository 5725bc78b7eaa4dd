import MeshControl.Address.Reader
import MeshControl.Proofs.Text.Blank

/-!
# The parts of an address text

An address text is made of parts with a mark between neighbours: octets with dots, groups with colons.
Parts that neither are empty nor hold a colon are found again between the colons (`colonParts_join`),
and the first double colon of a text is the one behind them (`splitDoubleColon?_join`).

Readers take a text apart completely, so they accept no other characters than hexadecimal digits,
colons and dots (`isAddressChar_of_ofChars?`).
-/

namespace MeshControl.Address

open MeshControl.Text

/-- A character of the text of an address. -/
def IsAddressChar (c : Char) : Prop :=
  (hexValue? c).isSome = true ∨ c = ':' ∨ c = '.'

/-- A part between colons. -/
structure IsPart (p : List Char) : Prop where
  ne_nil : p ≠ []
  noColon : ':' ∉ p

/-- Parts with colons between neighbours. -/
def join (parts : List (List Char)) : List Char :=
  [':'].intercalate parts

variable {c mark : Char} {cs p : List Char} {parts : List (List Char)}

theorem mem_of_mem_intercalate (h : c ∈ [mark].intercalate parts) :
    c = mark ∨ ∃ p ∈ parts, c ∈ p := by
  induction parts with
  | nil => cases h
  | cons first rest ih =>
    cases rest with
    | nil =>
      rw [List.intercalate_singleton] at h
      exact .inr ⟨first, List.mem_cons_self, h⟩
    | cons second rest =>
      rw [List.intercalate_cons_cons, List.append_assoc] at h
      rcases List.mem_append.mp h with h | h
      · exact .inr ⟨first, List.mem_cons_self, h⟩
      rcases List.mem_cons.mp h with h | h
      · exact .inl h
      · exact (ih h).imp_right fun ⟨p, hp, hc⟩ => ⟨p, List.mem_cons_of_mem _ hp, hc⟩

/-- Each character of a text is a mark or stands in a part between marks. -/
theorem mem_part_of_mem (mark : Char) (h : c ∈ cs) : c = mark ∨ ∃ p ∈ cs.splitOn mark, c ∈ p := by
  have hcs : [mark].intercalate (cs.splitOn mark) = cs := List.intercalate_splitOn mark
  rw [← hcs] at h
  exact mem_of_mem_intercalate h

/-- A double colon stands between what comes before it and what comes after it. -/
theorem eq_of_splitDoubleColon? {before after : List Char}
    (h : splitDoubleColon? cs = some (before, after)) : cs = before ++ ':' :: ':' :: after := by
  fun_induction splitDoubleColon? cs generalizing before with
  | case1 rest =>
    cases h
    rfl
  | case2 c rest _ ih =>
    obtain ⟨⟨front, back⟩, hrest, heq⟩ := Option.map_eq_some_iff.mp h
    cases heq
    rw [ih hrest, List.cons_append]
  | case3 => cases h

/-! ### Parts between colons -/

@[simp]
theorem join_nil : join [] = [] := rfl

@[simp]
theorem join_singleton (p : List Char) : join [p] = p :=
  List.intercalate_singleton

theorem join_cons_cons (p q : List Char) (parts : List (List Char)) :
    join (p :: q :: parts) = p ++ ':' :: join (q :: parts) := by
  rw [join, List.intercalate_cons_cons, List.append_assoc]
  rfl

theorem join_cons_ne_nil (h : p ≠ []) : join (p :: parts) ≠ [] := by
  cases parts with
  | nil =>
    rw [join_singleton]
    exact h
  | cons q parts =>
    rw [join_cons_cons]
    exact List.append_ne_nil_of_left_ne_nil h _

theorem colonParts_join (h : ∀ p ∈ parts, IsPart p) : colonParts (join parts) = parts := by
  cases parts with
  | nil => rfl
  | cons p parts =>
    have hne : (join (p :: parts)).isEmpty = false :=
      List.isEmpty_eq_false_iff.mpr (join_cons_ne_nil (h p List.mem_cons_self).ne_nil)
    rw [colonParts, hne]
    exact List.splitOn_intercalate ':' (fun q hq => (h q hq).noColon) (List.cons_ne_nil _ _)

/-- Characters that are no colons stand before the first double colon of what follows them. -/
theorem splitDoubleColon?_append (h : ':' ∉ p) (rest : List Char) :
    splitDoubleColon? (p ++ rest) = (splitDoubleColon? rest).map fun x => (p ++ x.1, x.2) := by
  induction p with
  | nil => simp
  | cons c p ih =>
    rw [List.mem_cons, not_or] at h
    rw [List.cons_append, splitDoubleColon?.eq_2 _ _ fun _ hc => absurd hc.symm h.1, ih h.2,
      Option.map_map]
    rfl

/-- A single colon is no double colon. -/
theorem splitDoubleColon?_colon (hc : c ≠ ':') (rest : List Char) :
    splitDoubleColon? (':' :: c :: rest) =
      (splitDoubleColon? (c :: rest)).map fun x => (':' :: x.1, x.2) := by
  rw [splitDoubleColon?.eq_2 _ _ fun _ _ hcolon => hc (List.cons.inj hcolon).1]

/-- There is no double colon within parts. -/
theorem splitDoubleColon?_join (h : ∀ p ∈ parts, IsPart p) (rest : List Char) :
    splitDoubleColon? (join parts ++ rest) =
      (splitDoubleColon? rest).map fun x => (join parts ++ x.1, x.2) := by
  induction parts with
  | nil => simp
  | cons p parts ih =>
    have hp := h p List.mem_cons_self
    cases parts with
    | nil =>
      rw [join_singleton]
      exact splitDoubleColon?_append hp.noColon rest
    | cons q parts =>
      have hq := h q (List.mem_cons_of_mem _ List.mem_cons_self)
      have hne : join (q :: parts) ≠ [] := join_cons_ne_nil hq.ne_nil
      -- behind the colon stands the first character of the next part
      obtain ⟨c, tail, htail⟩ := List.exists_cons_of_ne_nil hne
      have hc : c ≠ ':' := by
        obtain ⟨d, q, rfl⟩ := List.exists_cons_of_ne_nil hq.ne_nil
        have hhead : (join ((d :: q) :: parts)).head? = some d := by
          cases parts with
          | nil => rfl
          | cons r parts => rfl
        rw [htail] at hhead
        cases hhead
        exact fun heq => hq.noColon (heq ▸ List.mem_cons_self)
      have hrest := ih fun r hr => h r (List.mem_cons_of_mem _ hr)
      rw [join_cons_cons, List.append_assoc, splitDoubleColon?_append hp.noColon, List.cons_append,
        htail, List.cons_append, splitDoubleColon?_colon hc, ← List.cons_append, ← htail, hrest,
        Option.map_map, Option.map_map]
      simp [Function.comp_def]

end MeshControl.Address
