import Mathlib.Tactic.SplitIfs
import MeshControl.Json.Printer
import MeshControl.Proofs.Text.Digits

/-!
# Strings and numbers are read back

A string is read back whatever it escapes (`readString?_stringText`), and a number digit by digit
(`readNumber?_text`): every number is written with digits where the grammar asks for some
(`Number.isProper_literal`).

A number is read up to the first character that cannot continue it, so what follows it must not
continue it (`EndsNumber`).
-/

namespace MeshControl.Json

open MeshControl.Text

variable {after : Pieces}

/-! ### Strings -/

/-- The controls that are written with a letter of their own. -/
def lettered : List Char :=
  ['\x08', '\x0c', '\n', '\r', '\t']

/-- A character of a string as a reader sees it: a control without a letter of its own is given by its
number. -/
def partOf (c : Char) : StringPart :=
  if c.toNat < 0x20 ∧ c ∉ lettered then .unit c.toNat else .char c

/-- A backslash before a letter stands for one character. -/
theorem stringParts?_letter {a c : Char} {rest : Pieces} {parts : List StringPart}
    (ha : escaped? a = some c) (hu : a ≠ 'u') (h : stringParts? rest = some (parts, after)) :
    stringParts? (some '\\' :: some a :: rest) = some (.char c :: parts, after) := by
  rw [stringParts?.eq_5 a rest (fun _ _ _ _ _ _ heq => hu heq), ha, h]
  rfl

/-- A backslash before `u` and four digits stands for the unit of their number. -/
theorem stringParts?_unit {n : Nat} (hn : n < 16 ^ 4) {rest : Pieces} {parts : List StringPart}
    (h : stringParts? rest = some (parts, after)) :
    stringParts? ((['\\', 'u'] ++ hexPadded 4 n).map some ++ rest) = some (.unit n :: parts, after) := by
  have hdigits : hexadecimal? (hexPadded 4 n) = some n := hexadecimal?_hexPadded (by omega) hn
  obtain ⟨a, b, c, d, heq⟩ : ∃ a b c d, hexPadded 4 n = [a, b, c, d] := ⟨_, _, _, _, rfl⟩
  rw [heq] at hdigits ⊢
  show stringParts? (some '\\' :: some 'u' :: some a :: some b :: some c :: some d :: rest) = _
  rw [stringParts?.eq_4, hdigits, h]
  rfl

/-- Any other character stands for itself. -/
theorem stringParts?_char {c : Char} {rest : Pieces} {parts : List StringPart} (hquote : c ≠ '"')
    (hslash : c ≠ '\\') (hc : ¬ c.toNat < 0x20) (h : stringParts? rest = some (parts, after)) :
    stringParts? (some c :: rest) = some (.char c :: parts, after) := by
  rw [stringParts?.eq_6 c rest hquote (fun _ _ _ _ _ _ heq => hslash heq)
    (fun _ _ _ heq => hslash heq), if_neg (not_or.mpr ⟨hc, hslash⟩), h]
  rfl

/-- A character is read back from the way in which it stands in a string. -/
theorem stringParts?_stringChar (c : Char) {rest : Pieces} {parts : List StringPart}
    (h : stringParts? rest = some (parts, after)) :
    stringParts? ((stringChar c).map some ++ rest) = some (partOf c :: parts, after) := by
  unfold stringChar
  split_ifs with hself hb hf hn hr ht hcontrol
  · rcases hself with rfl | rfl
    · exact stringParts?_letter rfl (by decide) h
    · exact stringParts?_letter rfl (by decide) h
  · subst hb
    exact stringParts?_letter rfl (by decide) h
  · subst hf
    exact stringParts?_letter rfl (by decide) h
  · subst hn
    exact stringParts?_letter rfl (by decide) h
  · subst hr
    exact stringParts?_letter rfl (by decide) h
  · subst ht
    exact stringParts?_letter rfl (by decide) h
  · have hpart : partOf c = .unit c.toNat := if_pos ⟨hcontrol, by simp [lettered, hb, hf, hn, hr, ht]⟩
    rw [hpart]
    exact stringParts?_unit (by omega) h
  · have hpart : partOf c = .char c := if_neg fun hc => hcontrol hc.1
    rw [hpart]
    exact stringParts?_char (fun h => hself (.inl h)) (fun h => hself (.inr h)) hcontrol h

theorem stringParts?_chars (cs : List Char) (after : Pieces) :
    stringParts? ((cs.flatMap stringChar).map some ++ some '"' :: after) =
      some (cs.map partOf, after) := by
  induction cs with
  | nil => rfl
  | cons c rest ih =>
    rw [List.flatMap_cons, List.map_append, List.append_assoc]
    exact stringParts?_stringChar c ih

theorem partsText?_map_partOf (cs : List Char) : partsText? (cs.map partOf) = some cs := by
  induction cs with
  | nil => rfl
  | cons c rest ih =>
    rw [List.map_cons, partOf]
    split_ifs with hc
    · -- a control is no half of a pair of surrogates
      have hhigh : isHighSurrogate c.toNat = false := by
        simp only [isHighSurrogate, Bool.and_eq_false_iff, decide_eq_false_iff_not]
        omega
      have hlow : isLowSurrogate c.toNat = false := by
        simp only [isLowSurrogate, Bool.and_eq_false_iff, decide_eq_false_iff_not]
        omega
      rw [partsText?.eq_def]
      simp only [hhigh, hlow, ih, Bool.false_eq_true, if_false, Option.map_some, Char.ofNat_toNat]
    · rw [partsText?, ih, Option.map_some]

/-- A string is read back. -/
theorem readString?_stringText (s : String) (after : Pieces) :
    readString? ((s.toList.flatMap stringChar ++ ['"']).map some ++ after) = some (some s, after) := by
  have hparts := stringParts?_chars s.toList after
  rw [List.map_append, List.append_assoc]
  show (stringParts? ((s.toList.flatMap stringChar).map some ++ some '"' :: after)).map _ = _
  rw [hparts, Option.map_some]
  dsimp only
  rw [partsText?_map_partOf, Option.map_some, String.ofList_toList]

/-! ### Numbers -/

/-- What stands behind digits does not continue them. -/
def EndsDigits (after : Pieces) : Prop :=
  ∀ c, after.head? = some (some c) → decimalValue? c = none

/-- What stands behind a number does not continue it. -/
def EndsNumber (after : Pieces) : Prop :=
  ∀ c, after.head? = some (some c) → decimalValue? c = none ∧ c ∉ ['.', 'e', 'E']

theorem EndsNumber.endsDigits (h : EndsNumber after) : EndsDigits after :=
  fun c hc => (h c hc).1

theorem endsNumber_nil : EndsNumber [] := nofun

theorem endsNumber_cons {c : Char} (h : decimalValue? c = none ∧ c ∉ ['.', 'e', 'E']) :
    EndsNumber (some c :: after) := by
  intro d hd
  obtain rfl : c = d := Option.some.inj (Option.some.inj hd)
  exact h

/-- One or more digits. -/
structure AreDigits (ds : List Nat) : Prop where
  ne_nil : ds ≠ []
  lt : ∀ d ∈ ds, d < 10

theorem areDigits_digits (n : Nat) : AreDigits (digits n) where
  ne_nil := digits_ne_nil
  lt _ := lt_of_mem_digits

theorem takeDigits_digitsText {ds : List Nat} (hds : ∀ d ∈ ds, d < 10) (h : EndsDigits after) :
    takeDigits ((digitsText ds).map some ++ after) = (ds, after) := by
  induction ds with
  | nil =>
    show takeDigits after = ([], after)
    match after with
    | [] => rfl
    | none :: rest => rfl
    | some c :: rest => rw [takeDigits, h c rfl]
  | cons d rest ih =>
    have hrest := ih fun e he => hds e (List.mem_cons_of_mem d he)
    show takeDigits (some (Nat.digitChar d) :: ((digitsText rest).map some ++ after)) = _
    rw [takeDigits, decimalValue?_digitChar d (hds d List.mem_cons_self), hrest]

theorem readDigits?_digitsText {ds : List Nat} (hds : AreDigits ds) (h : EndsDigits after) :
    readDigits? ((digitsText ds).map some ++ after) = some (ds, after) := by
  rw [readDigits?, takeDigits_digitsText hds.lt h]
  match ds, hds.ne_nil with
  | d :: rest, _ => rfl

namespace Literal

/-- A literal has digits wherever the grammar asks for some, and no zero in front of others. -/
structure IsProper (l : Literal) : Prop where
  whole : AreDigits l.whole
  head_ne_zero : ∀ d rest, l.whole ≠ 0 :: d :: rest
  fraction : ∀ ds, l.fraction? = some ds → AreDigits ds
  exponent : ∀ isNegative ds, l.exponent? = some (isNegative, ds) → AreDigits ds

variable {l : Literal}

theorem endsDigits_exponentText (exponent? : Option (Bool × List Nat)) (h : EndsNumber after) :
    EndsDigits ((exponentText exponent?).map some ++ after) := by
  match exponent? with
  | none => exact h.endsDigits
  | some (isNegative, ds) =>
    intro c hc
    obtain rfl : 'e' = c := Option.some.inj (Option.some.inj hc)
    rfl

theorem endsDigits_fractionText (fraction? : Option (List Nat)) {more : Pieces} (h : EndsDigits more) :
    EndsDigits ((fractionText fraction?).map some ++ more) := by
  match fraction? with
  | none => exact h
  | some ds =>
    intro c hc
    obtain rfl : '.' = c := Option.some.inj (Option.some.inj hc)
    rfl

theorem readExponent?_text (hl : l.IsProper) (h : EndsNumber after) :
    readExponent? ((exponentText l.exponent?).map some ++ after) = some (l.exponent?, after) := by
  match hexponent : l.exponent? with
  | none =>
    show readExponent? after = some (none, after)
    match after with
    | [] => rfl
    | none :: rest => rfl
    | some c :: rest =>
      have hc := (h c rfl).2
      simp only [List.mem_cons, List.not_mem_nil, or_false, not_or] at hc
      rw [readExponent?.eq_3 _ (fun _ heq => hc.2.1 (Option.some.inj (List.cons.inj heq).1))
        (fun _ heq => hc.2.2 (Option.some.inj (List.cons.inj heq).1))]
  | some (true, ds) =>
    have hds := readDigits?_digitsText (hl.exponent true ds hexponent) h.endsDigits
    show (readExponentDigits? (some '-' :: ((digitsText ds).map some ++ after))).map _ = _
    rw [readExponentDigits?, hds]
    rfl
  | some (false, ds) =>
    have hds := readDigits?_digitsText (hl.exponent false ds hexponent) h.endsDigits
    show (readExponentDigits? (some '+' :: ((digitsText ds).map some ++ after))).map _ = _
    rw [readExponentDigits?, hds]
    rfl

theorem readFraction?_text (hl : l.IsProper) {more : Pieces} (h : EndsDigits more)
    (hpoint : more.head? ≠ some (some '.')) :
    readFraction? ((fractionText l.fraction?).map some ++ more) = some (l.fraction?, more) := by
  match hfraction : l.fraction? with
  | none =>
    show readFraction? more = some (none, more)
    rw [readFraction?.eq_2 _ (fun rest heq => hpoint (by rw [heq]; rfl))]
  | some ds =>
    have hds := readDigits?_digitsText (hl.fraction ds hfraction) h
    show (readDigits? ((digitsText ds).map some ++ more)).map _ = _
    rw [hds]
    rfl

theorem readWhole?_text (hl : l.IsProper) {more : Pieces} (h : EndsDigits more) :
    readWhole? ((digitsText l.whole).map some ++ more) = some (l.whole, more) := by
  rw [readWhole?, readDigits?_digitsText hl.whole h]
  split
  · next d rest _ heq =>
    exact absurd (Prod.mk.inj (Option.some.inj heq)).1 (hl.head_ne_zero d rest)
  · rfl

/-- A number without its sign is read back. -/
theorem readMagnitude?_text (hl : l.IsProper) (h : EndsNumber after) :
    readMagnitude? l.negative ((digitsText l.whole ++ fractionText l.fraction?
      ++ exponentText l.exponent?).map some ++ after) = some (l, after) := by
  have hexponent := readExponent?_text hl h
  have hends := endsDigits_exponentText l.exponent? h
  have hpoint : ((exponentText l.exponent?).map some ++ after).head? ≠ some (some '.') := by
    match l.exponent? with
    | none => exact fun heq => (h '.' heq).2 (by decide)
    | some (isNegative, ds) => nofun
  have hfraction := readFraction?_text hl hends hpoint
  have hwhole := readWhole?_text hl (endsDigits_fractionText l.fraction? hends)
  rw [List.map_append, List.map_append, List.append_assoc, List.append_assoc, readMagnitude?, hwhole,
    Option.bind_eq_bind, Option.bind_some]
  dsimp only
  rw [hfraction, Option.bind_eq_bind, Option.bind_some]
  dsimp only
  rw [hexponent, Option.bind_eq_bind, Option.bind_some]
  rfl

/-- A number is read back. -/
theorem readNumber?_text (hl : l.IsProper) (h : EndsNumber after) :
    readNumber? (l.text.map some ++ after) = some (l, after) := by
  have hmagnitude := readMagnitude?_text hl h
  rw [text, List.append_assoc, List.append_assoc]
  rw [List.append_assoc] at hmagnitude
  match hsign : l.negative with
  | true =>
    rw [hsign] at hmagnitude
    exact hmagnitude
  | false =>
    rw [hsign] at hmagnitude
    -- the first digit is no sign
    match hwhole : l.whole, hl.whole.ne_nil with
    | d :: rest, _ =>
      have hd : d < 10 := hl.whole.lt d (hwhole ▸ List.mem_cons_self)
      have hne : ∀ d < 10, Nat.digitChar d ≠ '-' := by decide
      rw [hwhole] at hmagnitude
      rw [if_neg Bool.false_ne_true, List.nil_append]
      refine Eq.trans (readNumber?.eq_2 _ fun more heq => hne d hd ?_) hmagnitude
      exact Option.some.inj (List.cons.inj heq).1

/-! Every number is written with digits where the grammar asks for some. -/

theorem ne_zero_cons {ds : List Nat} (h : ds.head? ≠ some 0) (d : Nat) (rest : List Nat) :
    ds ≠ 0 :: d :: rest := fun heq => h (by rw [heq]; rfl)

theorem head?_digits_ne {n : Nat} (h : n ≠ 0) : (digits n).head? ≠ some 0 := by
  rw [List.head?_eq_some_head digits_ne_nil]
  exact fun heq => head_digits_ne_zero h (Option.some.inj heq)

theorem areDigits_zeros_append {n : Nat} {ds : List Nat} (h : AreDigits ds) :
    AreDigits (List.replicate n 0 ++ ds) where
  ne_nil := List.append_ne_nil_of_right_ne_nil _ h.ne_nil
  lt d hd := by
    rcases List.mem_append.mp hd with hd | hd
    · rw [List.eq_of_mem_replicate hd]
      omega
    · exact h.lt d hd

theorem areDigits_take {n : Nat} {ds : List Nat} (h : AreDigits ds) (hn : 0 < n) :
    AreDigits (ds.take n) where
  ne_nil heq := by
    rcases List.take_eq_nil_iff.mp heq with heq | heq
    · omega
    · exact h.ne_nil heq
  lt d hd := h.lt d (List.mem_of_mem_take hd)

theorem areDigits_drop {n : Nat} {ds : List Nat} (h : AreDigits ds) (hn : n < ds.length) :
    AreDigits (ds.drop n) where
  ne_nil heq := by
    have hle := List.drop_eq_nil_iff.mp heq
    omega
  lt d hd := h.lt d (List.mem_of_mem_drop hd)

theorem areDigits_zero : AreDigits [0] := ⟨List.cons_ne_nil _ _, by simp⟩

theorem isProper_digits (isNegative : Bool) (n : Nat) :
    IsProper ⟨isNegative, digits n, none, none⟩ where
  whole := areDigits_digits n
  head_ne_zero d rest := by
    by_cases h : n = 0
    · rw [h]
      nofun
    · exact ne_zero_cons (head?_digits_ne h) d rest
  fraction := nofun
  exponent := nofun

theorem isProper_ofDecimal (isNegative : Bool) (c : Nat) (k : Int) :
    IsProper (ofDecimal isNegative c k) := by
  have hds := areDigits_digits c
  have hlength : 0 < (digits c).length := List.length_pos_iff.mpr hds.ne_nil
  unfold ofDecimal
  dsimp only
  split_ifs with hc hwhole hpoint hsmall hone
  · exact ⟨areDigits_zero, nofun, fun ds h => Option.some.inj h ▸ areDigits_zero, nofun⟩
  · refine ⟨⟨List.append_ne_nil_of_left_ne_nil hds.ne_nil _, fun d hd => ?_⟩, fun d rest => ?_,
      fun ds h => Option.some.inj h ▸ areDigits_zero, nofun⟩
    · rcases List.mem_append.mp hd with hd | hd
      · exact hds.lt d hd
      · rw [List.eq_of_mem_replicate hd]
        omega
    · refine ne_zero_cons ?_ d rest
      rw [List.head?_append, List.head?_eq_some_head hds.ne_nil, Option.some_or,
        ← List.head?_eq_some_head hds.ne_nil]
      exact head?_digits_ne hc
  · have hfraction : AreDigits ((digits c).drop ((digits c).length + k).toNat) :=
      areDigits_drop hds (by omega)
    refine ⟨areDigits_take hds (by omega), fun d rest => ?_,
      fun ds h => Option.some.inj h ▸ hfraction, nofun⟩
    refine ne_zero_cons ?_ d rest
    rw [List.head?_take, if_neg (by omega)]
    exact head?_digits_ne hc
  · exact ⟨areDigits_zero, nofun, fun ds h => Option.some.inj h ▸ areDigits_zeros_append hds, nofun⟩
  all_goals
    refine ⟨areDigits_take hds (by omega), fun d rest => ?_, fun ds h => ?_, fun isNegative ds h => ?_⟩
  · exact ne_zero_cons (by rw [List.head?_take, if_neg (by omega)]; exact head?_digits_ne hc) d rest
  · cases h
  · obtain ⟨-, rfl⟩ := Prod.mk.inj (Option.some.inj h)
    exact areDigits_digits _
  · exact ne_zero_cons (by rw [List.head?_take, if_neg (by omega)]; exact head?_digits_ne hc) d rest
  · exact Option.some.inj h ▸ areDigits_drop hds (by omega)
  · obtain ⟨-, rfl⟩ := Prod.mk.inj (Option.some.inj h)
    exact areDigits_digits _

end Literal

theorem Number.isProper_literal (n : Number) : n.literal.IsProper := by
  match n with
  | .natural n => exact Literal.isProper_digits false n
  | .negative n => exact Literal.isProper_digits true n
  | .real x => exact Literal.isProper_ofDecimal x.negative _ _

end MeshControl.Json
