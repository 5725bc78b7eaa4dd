import Mathlib.Data.List.Flatten
import MeshControl.Proofs.Text.Utf8
import MeshControl.Text.Percent

/-!
# Reading percent form back

A byte in percent form is read back as that byte (`percentDecode_percentByte`), and a text in which no
percent sign stands before two hexadecimal digits is read as its own bytes; any other text is read as
fewer bytes than it has (`percentDecode_eq_iff`).  What a form writes is read back as the same pairs
(`Form.decode_encode`): no byte of a name or a value is written with an ampersand or an equals sign.

Facts about single bytes are checked for each of the 256.
-/

namespace MeshControl.Text

open String (utf8EncodeChar)

/-! ### Characters and bytes -/

theorem forall_byte {p : UInt8 → Prop} (h : ∀ n < 256, p (UInt8.ofNat n)) (b : UInt8) : p b := by
  have hb := h b.toNat b.toNat_lt
  rwa [UInt8.ofNat_toNat] at hb

theorem forall_mem_of_all {α : Type} {cs : List α} {p : α → Prop} [DecidablePred p]
    (h : cs.all (fun c => decide (p c)) = true) : ∀ c ∈ cs, p c := fun c hc =>
  of_decide_eq_true (List.all_eq_true.mp h c hc)

theorem utf8EncodeChar_ascii {c : Char} (h : c.toNat < 0x80) :
    utf8EncodeChar c = [UInt8.ofNat c.toNat] := by
  have hn : c.val.toNat = c.toNat := rfl
  rw [utf8EncodeChar, hn, if_pos (by omega)]

/-- Fewer characters have fewer bytes. -/
theorem eq_of_sublist_of_length_le {cs ds : List Char} (hsub : cs.Sublist ds)
    (hle : (ds.flatMap utf8EncodeChar).length ≤ (cs.flatMap utf8EncodeChar).length) : cs = ds := by
  have hbytes := (hsub.flatMap utf8EncodeChar).eq_of_length_le hle
  have hencode : Utf8.encode (String.ofList cs) = Utf8.encode (String.ofList ds) := by
    rw [Utf8.encode_eq_flatMap, Utf8.encode_eq_flatMap, String.toList_ofList, String.toList_ofList,
      hbytes]
  exact String.ofList_injective (Utf8.encode_injective hencode)

/-! ### Percent form -/

/-- Whether characters begin with a byte in percent form. -/
def startsEscape : List Char → Bool
  | '%' :: a :: b :: _ => (hexValue? a).isSome && (hexValue? b).isSome
  | _ => false

/-- Whether there is a byte in percent form among characters. -/
def hasEscape : List Char → Bool
  | [] => false
  | c :: rest => startsEscape (c :: rest) || hasEscape rest

theorem startsEscape_of_ne {c : Char} (h : c ≠ '%') (rest : List Char) :
    startsEscape (c :: rest) = false := by
  rw [startsEscape]
  exact fun _ _ _ heq => h (List.cons.inj heq).1

theorem percentDecode_cons {c : Char} {rest : List Char} (h : startsEscape (c :: rest) = false) :
    percentDecode (c :: rest) = utf8EncodeChar c ++ percentDecode rest := by
  rw [percentDecode.eq_def]
  split
  · rename_i a b tail heq
    obtain ⟨rfl, rfl⟩ := List.cons.inj heq
    simp only [startsEscape, Bool.and_eq_false_iff, Option.isSome_eq_false_iff,
      Option.isNone_iff_eq_none] at h
    rcases h with ha | hb
    · rw [ha]
    · rw [hb]
      cases hexValue? a <;> rfl
  · rename_i heq
    obtain ⟨rfl, rfl⟩ := List.cons.inj heq
    rfl
  · contradiction

theorem percentDecode_escape {a b : Char} (ha : (hexValue? a).isSome = true)
    (hb : (hexValue? b).isSome = true) (rest : List Char) :
    percentDecode ('%' :: a :: b :: rest) =
      UInt8.ofNat (16 * (hexValue? a).get ha + (hexValue? b).get hb) :: percentDecode rest := by
  obtain ⟨high, ha'⟩ := Option.isSome_iff_exists.mp ha
  obtain ⟨low, hb'⟩ := Option.isSome_iff_exists.mp hb
  simp only [percentDecode, ha', hb', Option.get_some]

/-- Characters taken from the front as they are read: bytes in percent form, and characters that begin
none. -/
@[elab_as_elim]
theorem escapeInduction {motive : List Char → Prop} (nil : motive [])
    (escape : ∀ a b rest, (hexValue? a).isSome = true → (hexValue? b).isSome = true →
      motive rest → motive ('%' :: a :: b :: rest))
    (cons : ∀ c rest, startsEscape (c :: rest) = false → motive rest → motive (c :: rest))
    (cs : List Char) : motive cs := by
  induction cs using percentDecode.induct with
  | case1 a b rest high low hb ha ih => exact escape a b rest (ha ▸ rfl) (hb ▸ rfl) ih
  | case2 a b rest hnone ih =>
    refine cons '%' (a :: b :: rest) ?_ ih
    rw [startsEscape, Bool.and_eq_false_iff]
    cases ha : hexValue? a with
    | none => exact .inl rfl
    | some high =>
      cases hb : hexValue? b with
      | none => exact .inr rfl
      | some low => exact absurd hb (hnone high low ha)
  | case3 c rest hnone ih =>
    refine cons c rest ?_ ih
    rw [startsEscape]
    exact fun a b tail heq => hnone a b tail (List.cons.inj heq).1 (List.cons.inj heq).2
  | case4 => exact nil

theorem percentDecode_cons_ascii {c : Char} (h : c.toNat < 0x80) (hc : c ≠ '%') (rest : List Char) :
    percentDecode (c :: rest) = UInt8.ofNat c.toNat :: percentDecode rest := by
  rw [percentDecode_cons (startsEscape_of_ne hc rest), utf8EncodeChar_ascii h, List.singleton_append]

/-- The digits of a byte are those of its value. -/
theorem hexValue?_capitalHexDigit : ∀ d < 16, hexValue? (capitalHexDigit d) = some d := by
  decide

theorem percentDecode_percentByte (b : UInt8) (rest : List Char) :
    percentDecode (percentByte b ++ rest) = b :: percentDecode rest := by
  have hb : b.toNat < 256 := b.toNat_lt
  have hvalue : 16 * (b.toNat / 16) + b.toNat % 16 = b.toNat := by omega
  rw [percentByte, List.cons_append, List.cons_append, List.cons_append, List.nil_append,
    percentDecode, hexValue?_capitalHexDigit _ (by omega), hexValue?_capitalHexDigit _ (by omega)]
  dsimp only
  rw [hvalue, UInt8.ofNat_toNat]

theorem percentDecode_percentBytes (bs : List UInt8) (rest : List Char) :
    percentDecode (bs.flatMap percentByte ++ rest) = bs ++ percentDecode rest := by
  induction bs with
  | nil => rfl
  | cons b bs ih =>
    rw [List.flatMap_cons, List.append_assoc, percentDecode_percentByte, ih, List.cons_append]

/-! ### Texts without bytes in percent form -/

theorem percentDecode_of_hasEscape_eq_false {cs : List Char} (h : hasEscape cs = false) :
    percentDecode cs = cs.flatMap utf8EncodeChar := by
  induction cs with
  | nil => rfl
  | cons c rest ih =>
    obtain ⟨hstart, hrest⟩ := Bool.or_eq_false_iff.mp h
    rw [percentDecode_cons hstart, ih hrest, List.flatMap_cons]

theorem utf8EncodeChar_length_pos (c : Char) : 0 < (utf8EncodeChar c).length :=
  List.length_pos_iff.mpr String.utf8EncodeChar_ne_nil

/-- Percent form stands for no more bytes than it has, and for fewer if it is used. -/
theorem length_percentDecode (cs : List Char) :
    (percentDecode cs).length ≤ (cs.flatMap utf8EncodeChar).length ∧
      (hasEscape cs = true → (percentDecode cs).length < (cs.flatMap utf8EncodeChar).length) := by
  induction cs using escapeInduction with
  | nil => exact ⟨Nat.le_refl _, nofun⟩
  | escape a b rest ha hb ih =>
    have := utf8EncodeChar_length_pos '%'
    have := utf8EncodeChar_length_pos a
    have := utf8EncodeChar_length_pos b
    rw [percentDecode_escape ha hb]
    simp only [List.flatMap_cons, List.length_cons, List.length_append]
    omega
  | cons c rest hstart ih =>
    rw [hasEscape, hstart, Bool.false_or, percentDecode_cons hstart, List.flatMap_cons,
      List.length_append, List.length_append]
    exact ⟨by omega, fun h => by have := ih.2 h; omega⟩

/-- A text stands for its own bytes exactly if none of them is in percent form. -/
theorem percentDecode_eq_iff {cs : List Char} :
    percentDecode cs = cs.flatMap utf8EncodeChar ↔ hasEscape cs = false := by
  refine ⟨fun heq => ?_, percentDecode_of_hasEscape_eq_false⟩
  rw [Bool.eq_false_iff]
  intro h
  exact Nat.lt_irrefl _ (heq ▸ (length_percentDecode cs).2 h)

/-! ### Forms -/

namespace Form

/-- A byte of a name or a value as a form writes it. -/
def byteText (b : UInt8) : List Char :=
  if b = 0x20 then ['+'] else if isPlain b then [Char.ofNat b.toNat] else percentByte b

theorem encodeText_eq (s : String) : encodeText s = (Utf8.encode s).flatMap byteText :=
  rfl

/-- A form has spaces in place of the plus signs when it is read. -/
def plusless (cs : List Char) : List Char :=
  cs.map fun c => if c = '+' then ' ' else c

theorem plusless_byteText : ∀ b, plusless (byteText b) =
    if b = 0x20 then [' '] else if isPlain b then [Char.ofNat b.toNat] else percentByte b :=
  forall_byte (by decide +kernel)

theorem ofNat_of_isPlain : ∀ b : UInt8, isPlain b = true →
    (Char.ofNat b.toNat).toNat = b.toNat ∧ b.toNat < 0x80 ∧ Char.ofNat b.toNat ≠ '%' :=
  forall_byte (by decide +kernel)

theorem notMem_byteText : ∀ b, '=' ∉ byteText b ∧ '&' ∉ byteText b :=
  forall_byte (by decide +kernel)

theorem percentDecode_byteText (b : UInt8) (rest : List Char) :
    percentDecode (plusless (byteText b) ++ rest) = b :: percentDecode rest := by
  rw [plusless_byteText]
  split
  next hspace =>
    rw [hspace, List.singleton_append, percentDecode_cons_ascii (by decide) (by decide)]
    rfl
  next =>
    split
    next hplain =>
      obtain ⟨hn, hlt, hne⟩ := ofNat_of_isPlain b hplain
      rw [List.singleton_append, percentDecode_cons_ascii (by omega) hne, hn, UInt8.ofNat_toNat]
    next => exact percentDecode_percentByte b rest

theorem decodeText_encodeText (s : String) : decodeText (encodeText s) = s := by
  have h : ∀ bs : List UInt8, percentDecode (plusless (bs.flatMap byteText)) = bs := by
    intro bs
    induction bs with
    | nil => rfl
    | cons b bs ih =>
      rw [List.flatMap_cons, plusless, List.map_append]
      exact (percentDecode_byteText b _).trans (congrArg (b :: ·) ih)
  rw [decodeText, encodeText_eq]
  exact (congrArg Utf8.decodeLossy (h _)).trans (Utf8.decodeLossy_encode s)

theorem notMem_encodeText (s : String) : '=' ∉ encodeText s ∧ '&' ∉ encodeText s := by
  rw [encodeText_eq]
  constructor <;> intro h <;> obtain ⟨b, _, hb⟩ := List.mem_flatMap.mp h
  · exact (notMem_byteText b).1 hb
  · exact (notMem_byteText b).2 hb

theorem decodePair_encodePair (pair : String × String) : decodePair (encodePair pair) = pair := by
  have hname : ∀ c ∈ encodeText pair.1, (decide (c ≠ '=')) = true := fun c hc =>
    decide_eq_true fun heq => (notMem_encodeText pair.1).1 (heq ▸ hc)
  rw [decodePair, encodePair, List.takeWhile_append_of_pos hname, List.dropWhile_append_of_pos hname,
    List.takeWhile_cons_of_neg (by simp), List.dropWhile_cons_of_neg (by simp), List.append_nil,
    List.drop_one, List.tail_cons, decodeText_encodeText, decodeText_encodeText]

theorem notMem_encodePair (pair : String × String) : '&' ∉ encodePair pair := by
  rw [encodePair, List.mem_append, List.mem_cons]
  rintro (h | h | h)
  · exact (notMem_encodeText pair.1).2 h
  · exact absurd h (by decide)
  · exact (notMem_encodeText pair.2).2 h

/-- What a form writes is read back as the same pairs. -/
theorem decode_encode (pairs : List (String × String)) : decode (encode pairs) = pairs := by
  cases pairs with
  | nil => rfl
  | cons pair rest =>
    have hsplit : (encode (pair :: rest)).toList.splitOn '&' = (pair :: rest).map encodePair := by
      rw [encode, String.toList_ofList]
      refine List.splitOn_intercalate '&' (fun cs hcs => ?_) (List.cons_ne_nil _ _)
      obtain ⟨p, _, rfl⟩ := List.mem_map.mp hcs
      exact notMem_encodePair p
    have hfilter : ((pair :: rest).map encodePair).filter (!·.isEmpty) =
        (pair :: rest).map encodePair := by
      refine List.filter_eq_self.mpr fun cs hcs => ?_
      obtain ⟨p, _, rfl⟩ := List.mem_map.mp hcs
      simp [encodePair]
    rw [decode, hsplit, hfilter, List.map_map]
    exact (List.map_congr_left fun p _ => decodePair_encodePair p).trans (List.map_id _)

end Form

end MeshControl.Text
