import Mathlib.Tactic.SplitIfs
import MeshControl.Http.Url.Basic
import MeshControl.Proofs.Text.Percent

/-!
# Segments and paths

A segment in percent form stands for what the segment itself stands for
(`percentDecode_encodeSegment`): a percent sign that was there already is left alone, so bytes in
percent form stay what they are, and no others come to be.  The last segment of a path in normal form is
the last one of the path, or nothing if that is made of dots (`getLast?_normalize`); the segments before
it that are not made of dots stay (`normalize_append`).
-/

namespace MeshControl.Http.Url

open MeshControl.Text
open String (utf8EncodeChar)

/-! ### Segments in percent form -/

/-- Whether a character stands for itself in a path. -/
def keepsChar (c : Char) : Bool :=
  c.toNat < 0x80 && keeps offPath (UInt8.ofNat c.toNat)

theorem le_of_mem_utf8EncodeChar {c : Char} (h : 0x80 ≤ c.toNat) {b : UInt8}
    (hb : b ∈ utf8EncodeChar c) : 0x80 ≤ b.toNat := by
  have hn : c.val.toNat = c.toNat := rfl
  simp only [utf8EncodeChar, hn] at hb
  split_ifs at hb
  · omega
  all_goals
    simp only [List.mem_cons, List.not_mem_nil, or_false] at hb
    rcases hb with rfl | rfl | rfl | rfl <;> rw [Utf8.toNat_ofNat (by omega)] <;> omega

@[simp]
theorem encodeSegment_nil : encodeSegment [] = [] := by
  rw [encodeSegment, percentEncode, Utf8.encode_eq_flatMap, String.toList_ofList]
  rfl

theorem encodeSegment_cons (c : Char) (cs : List Char) :
    encodeSegment (c :: cs) = encodeSegment [c] ++ encodeSegment cs := by
  simp only [encodeSegment, percentEncode, Utf8.encode_eq_flatMap, String.toList_ofList,
    List.flatMap_cons, List.flatMap_nil, List.flatMap_append, List.append_nil]

/-- A character stands for itself, or all of its bytes are in percent form. -/
theorem encodeSegment_singleton (c : Char) :
    encodeSegment [c] = if keepsChar c then [c] else (utf8EncodeChar c).flatMap percentByte := by
  rw [encodeSegment, percentEncode, Utf8.encode_eq_flatMap, String.toList_ofList, List.flatMap_cons,
    List.flatMap_nil, List.append_nil, keepsChar]
  by_cases hlow : c.toNat < 0x80
  · rw [decide_eq_true hlow, Bool.true_and, utf8EncodeChar_ascii hlow, List.flatMap_singleton,
      List.flatMap_singleton, Utf8.toNat_ofNat (by omega), Char.ofNat_toNat]
  · rw [decide_eq_false hlow, Bool.false_and, if_neg Bool.false_ne_true]
    rw [List.flatMap_def, List.flatMap_def]
    refine congrArg List.flatten (List.map_congr_left fun b hb => if_neg ?_)
    have hhigh := le_of_mem_utf8EncodeChar (Nat.le_of_not_lt hlow) hb
    rw [keeps, Bool.and_assoc, Bool.and_eq_true, Bool.and_eq_true, decide_eq_true_iff,
      decide_eq_true_iff]
    omega

theorem encodeSegment_cons_of_keeps {c : Char} (h : keepsChar c = true) (cs : List Char) :
    encodeSegment (c :: cs) = c :: encodeSegment cs := by
  rw [encodeSegment_cons, encodeSegment_singleton, if_pos h, List.singleton_append]

/-- Hexadecimal digits stand for themselves. -/
theorem keepsChar_of_hexValue? {c : Char} (h : (hexValue? c).isSome = true) : keepsChar c = true := by
  have hall : ∀ n < 0x80, (hexValue? (Char.ofNat n)).isSome = true →
      keepsChar (Char.ofNat n) = true := by
    decide +kernel
  have hlow : c.toNat < 0x80 := by
    have hc : ∀ d : Char, c ≤ d → c.toNat ≤ d.toNat := fun d hd => hd
    rw [hexValue?] at h
    split_ifs at h with digit small capital
    · exact Nat.lt_of_le_of_lt (hc _ digit.2) (by decide)
    · exact Nat.lt_of_le_of_lt (hc _ small.2) (by decide)
    · exact Nat.lt_of_le_of_lt (hc _ capital.2) (by decide)
    · cases h
  have hchar := hall c.toNat hlow
  rw [Char.ofNat_toNat] at hchar
  exact hchar h

/-- What begins with no hexadecimal digit begins with none in percent form either. -/
theorem encodeSegment_of_not_hex {c : Char} (h : hexValue? c = none) (cs : List Char) :
    ∃ x rest, encodeSegment (c :: cs) = x :: rest ∧ hexValue? x = none := by
  rw [encodeSegment_cons, encodeSegment_singleton]
  split
  · exact ⟨c, _, rfl, h⟩
  · cases hc : utf8EncodeChar c with
    | nil => exact absurd hc String.utf8EncodeChar_ne_nil
    | cons b bs => exact ⟨'%', _, rfl, by decide⟩

theorem startsEscape_of_hexValue?_eq_none {x : Char} (h : hexValue? x = none) (rest : List Char) :
    startsEscape ('%' :: x :: rest) = false := by
  cases rest with
  | nil => rfl
  | cons y rest => rw [startsEscape, h]; rfl

/-- Behind a percent sign there are two hexadecimal digits in percent form exactly if there are two. -/
theorem startsEscape_encodeSegment (cs : List Char) :
    startsEscape ('%' :: encodeSegment cs) = startsEscape ('%' :: cs) := by
  cases cs with
  | nil => rw [encodeSegment_nil]
  | cons a rest =>
    cases ha : hexValue? a with
    | none =>
      obtain ⟨x, tail, heq, hx⟩ := encodeSegment_of_not_hex ha rest
      rw [heq, startsEscape_of_hexValue?_eq_none hx, startsEscape_of_hexValue?_eq_none ha]
    | some high =>
      rw [encodeSegment_cons_of_keeps (keepsChar_of_hexValue? (by rw [ha]; rfl))]
      cases rest with
      | nil => rw [encodeSegment_nil]
      | cons b rest =>
        cases hb : hexValue? b with
        | none =>
          obtain ⟨x, tail, heq, hx⟩ := encodeSegment_of_not_hex hb rest
          rw [heq, startsEscape, startsEscape, hx, hb]
        | some low =>
          rw [encodeSegment_cons_of_keeps (keepsChar_of_hexValue? (by rw [hb]; rfl)), startsEscape,
            startsEscape]

/-- A segment in percent form stands for what the segment stands for. -/
theorem percentDecode_encodeSegment (cs : List Char) :
    percentDecode (encodeSegment cs) = percentDecode cs := by
  induction cs using escapeInduction with
  | nil => rw [encodeSegment_nil]
  | escape a b rest ha hb ih =>
    rw [encodeSegment_cons_of_keeps (by decide),
      encodeSegment_cons_of_keeps (keepsChar_of_hexValue? ha),
      encodeSegment_cons_of_keeps (keepsChar_of_hexValue? hb), percentDecode_escape ha hb,
      percentDecode_escape ha hb, ih]
  | cons c rest hstart ih =>
    rw [percentDecode_cons hstart, encodeSegment_cons, encodeSegment_singleton]
    split
    · have hstart' : startsEscape (c :: encodeSegment rest) = false := by
        by_cases hc : c = '%'
        · rw [hc, startsEscape_encodeSegment, ← hc, hstart]
        · exact startsEscape_of_ne hc _
      rw [List.singleton_append, percentDecode_cons hstart', ih]
    · rw [percentDecode_percentBytes, ih]

/-- A segment without slashes has none in percent form. -/
theorem slash_notMem_encodeSegment {cs : List Char} (h : '/' ∉ cs) : '/' ∉ encodeSegment cs := by
  have hbyte : ∀ b, '/' ∉ percentByte b := forall_byte (by decide +kernel)
  induction cs with
  | nil => rwa [encodeSegment_nil]
  | cons c rest ih =>
    rw [encodeSegment_cons, encodeSegment_singleton, List.mem_append]
    rintro (hc | hrest)
    · split at hc
      · exact h (List.mem_singleton.mp hc ▸ List.mem_cons_self)
      · obtain ⟨b, _, hb⟩ := List.mem_flatMap.mp hc
        exact hbyte b hb
    · exact ih (fun hmem => h (List.mem_cons_of_mem c hmem)) hrest

/-! ### Segments made of dots -/

/-- Whether a segment stands for a place and not for itself. -/
def isDots (segment : List Char) : Bool :=
  isAbove segment || isHere segment

theorem plainDots_eq_self {cs : List Char} (h : hasEscape cs = false) : plainDots cs = cs := by
  fun_induction plainDots cs with
  | case1 rest ih => cases h
  | case2 rest ih => cases h
  | case3 c rest _ _ ih => rw [ih (Bool.or_eq_false_iff.mp h).2]
  | case4 => rfl

/-- A segment with nothing in percent form is made of dots exactly if it is a dot or two. -/
theorem isDots_iff {cs : List Char} (h : hasEscape cs = false) :
    isDots cs = true ↔ cs = ['.'] ∨ cs = ['.', '.'] := by
  rw [isDots, isAbove, isHere, plainDots_eq_self h, Bool.or_eq_true, beq_iff_eq, beq_iff_eq, or_comm]

/-! ### Paths in normal form -/

/-- The segments at the front of a path stay if none of them is made of dots. -/
theorem normalize_append {front : List (List Char)} (h : ∀ s ∈ front, isDots s = false)
    (before : List (List Char)) {rest : List (List Char)} (hrest : rest ≠ []) :
    Kind.web.normalize before (front ++ rest) =
      Kind.web.normalize ((front.map encodeSegment).reverse ++ before) rest := by
  induction front generalizing before with
  | nil => rfl
  | cons s front ih =>
    obtain ⟨habove, hhere⟩ := Bool.or_eq_false_iff.mp (h s List.mem_cons_self)
    rw [List.cons_append, Kind.normalize, habove, hhere, if_neg Bool.false_ne_true,
      if_neg Bool.false_ne_true, ih fun t ht => h t (List.mem_cons_of_mem s ht)]
    · simp [Kind.segment]
    · simp [hrest]

theorem normalize_singleton {last : List Char} (h : isDots last = false)
    (before : List (List Char)) :
    Kind.web.normalize before [last] = before.reverse ++ [encodeSegment last] := by
  obtain ⟨habove, hhere⟩ := Bool.or_eq_false_iff.mp h
  rw [Kind.normalize, habove, hhere, if_neg Bool.false_ne_true, if_neg Bool.false_ne_true,
    List.reverse_cons]
  simp [Kind.segment]

/-- The last segment of a path in normal form is the last one of the path, or nothing in place of
dots. -/
theorem getLast?_normalize (before : List (List Char)) {path : List (List Char)} (h : path ≠ []) :
    (Kind.web.normalize before path).getLast? =
      some (if isDots (path.getLast h) then [] else encodeSegment (path.getLast h)) := by
  fun_induction Kind.web.normalize before path with
  | case1 => exact absurd rfl h
  | case2 before last habove => simp [isDots, habove]
  | case3 before last habove hhere => simp [isDots, hhere]
  | case4 before last habove hhere => simp [isDots, habove, hhere, Kind.segment]
  | case5 before s rest hrest habove ih => rw [ih hrest, List.getLast_cons hrest]
  | case6 before s rest hrest habove hhere ih => rw [ih hrest, List.getLast_cons hrest]
  | case7 before s rest hrest habove hhere ih => rw [ih hrest, List.getLast_cons hrest]

/-! ### Paths as text -/

theorem pathText_append (front back : List (List Char)) :
    pathText (front ++ back) = pathText front ++ pathText back :=
  List.flatMap_append

/-- What stands behind the last slash of a path is its last segment. -/
theorem eq_of_append_slash {front front' segment segment' : List Char}
    (h : front ++ '/' :: segment = front' ++ '/' :: segment') (hs : '/' ∉ segment)
    (hs' : '/' ∉ segment') : front = front' ∧ segment = segment' := by
  have hlast : ∀ {front segment : List Char}, '/' ∉ segment →
      (front ++ '/' :: segment).reverse.takeWhile (· ≠ '/') = segment.reverse := by
    intro front segment hs
    have hall : ∀ c ∈ segment.reverse, decide (c ≠ '/') = true := fun c hc =>
      decide_eq_true fun heq => hs (heq ▸ List.mem_reverse.mp hc)
    rw [List.reverse_append, List.reverse_cons, List.append_assoc,
      List.takeWhile_append_of_pos hall, List.singleton_append,
      List.takeWhile_cons_of_neg (by simp), List.append_nil]
  have heq : segment = segment' := by
    rw [← List.reverse_inj, ← hlast hs, ← hlast hs', h]
  subst heq
  exact ⟨List.append_cancel_right h, rfl⟩

end MeshControl.Http.Url
