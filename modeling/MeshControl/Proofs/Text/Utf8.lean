import Mathlib.Tactic.SplitIfs
import MeshControl.Text.Utf8

/-!
# Reading back what was written

The bytes of a text, cut into pieces, are its characters again (`pieces_encode`), so a text is read
back from its bytes (`decode?_encode`) and different texts have different bytes (`encode_injective`).

A character takes one to four bytes.  What `front` finds at the front of them is the character, by
one lemma for each number of bytes: `front_two`, `front_three` and `front_four`, the last two with
the same argument for every range of first bytes (`frontThree_tail`, `frontFour_tail`).
-/

namespace MeshControl.Text.Utf8

/-! ### The bytes of a text -/

theorem toList_loop (bytes : ByteArray) (i : Nat) (before : List UInt8) :
    ByteArray.toList.loop bytes i before = before.reverse ++ bytes.data.toList.drop i := by
  fun_induction ByteArray.toList.loop bytes i before with
  | case1 i before h ih =>
    have hi : i < bytes.data.toList.length := h
    rw [ih, List.drop_eq_getElem_cons hi, List.reverse_cons, List.append_assoc,
      List.singleton_append]
    simp [ByteArray.get!, getElem!_pos, h]
  | case2 i before h =>
    rw [List.drop_eq_nil_of_le (Nat.le_of_not_lt h), List.append_nil]

/-- The bytes of a text are those of its characters. -/
theorem encode_eq_flatMap (s : String) : encode s = s.toList.flatMap String.utf8EncodeChar := by
  rw [encode, ByteArray.toList, toList_loop, List.drop_zero, List.reverse_nil, List.nil_append,
    String.toUTF8, ← String.utf8Encode_toList, List.utf8Encode, List.toList_data_toByteArray]

/-! ### Bytes of a character -/

theorem within_iff {low high : Nat} {b : UInt8} :
    within low high b = true ↔ low ≤ b.toNat ∧ b.toNat ≤ high := by
  rw [within, Bool.and_eq_true, decide_eq_true_iff, decide_eq_true_iff]

/-- A character is no surrogate. -/
theorem toNat_valid (c : Char) : c.toNat < 0xD800 ∨ 0xDFFF < c.toNat ∧ c.toNat < 0x110000 :=
  c.valid

theorem toNat_ofNat {n : Nat} (h : n < 256) : (UInt8.ofNat n).toNat = n :=
  UInt8.toNat_ofNat_of_lt' h

section Tail

/-! A byte behind the first one of a character carries six bits of it. -/

variable (n : Nat)

theorem payload_tail : payload (UInt8.ofNat (n % 64 + 128)) = n % 64 := by
  rw [payload, toNat_ofNat (by omega)]
  omega

theorem within_tail {low high : Nat} (hl : low ≤ n % 64 + 128) (hh : n % 64 + 128 ≤ high) :
    within low high (UInt8.ofNat (n % 64 + 128)) = true := by
  rw [within_iff, toNat_ofNat (by omega)]
  exact ⟨hl, hh⟩

theorem within_tail_any : within 0x80 0xBF (UInt8.ofNat (n % 64 + 128)) = true :=
  within_tail n (by omega) (by omega)

end Tail

section Front

variable {c : Char} (rest : List UInt8)

theorem front_two (low : 0x80 ≤ c.toNat) (high : c.toNat < 0x800) :
    front (UInt8.ofNat (c.toNat / 64 % 32 + 192)) (UInt8.ofNat (c.toNat % 64 + 128) :: rest) =
      ⟨some c, 1⟩ := by
  have hb : (UInt8.ofNat (c.toNat / 64 % 32 + 192)).toNat = c.toNat / 64 % 32 + 192 :=
    toNat_ofNat (by omega)
  have hw : within 0xC2 0xDF (UInt8.ofNat (c.toNat / 64 % 32 + 192)) = true := by
    rw [within_iff, hb]
    omega
  rw [front, if_neg (by omega), if_pos hw, frontTwo, if_pos (within_tail_any _), payload_tail, hb,
    show (c.toNat / 64 % 32 + 192) % 32 * 64 + c.toNat % 64 = c.toNat by omega, Char.ofNat_toNat]

theorem frontThree_tail {low high : Nat} (hc : c.toNat < 0x10000)
    (hl : low ≤ c.toNat / 64 % 64 + 128) (hh : c.toNat / 64 % 64 + 128 ≤ high) :
    frontThree (c.toNat / 4096 % 16 + 224) low high
        (UInt8.ofNat (c.toNat / 64 % 64 + 128) :: UInt8.ofNat (c.toNat % 64 + 128) :: rest) =
      ⟨some c, 2⟩ := by
  simp only [frontThree, within_tail _ hl hh, within_tail_any, if_true, payload_tail]
  rw [show (c.toNat / 4096 % 16 + 224) % 16 * 4096 + c.toNat / 64 % 64 * 64 + c.toNat % 64 =
    c.toNat by omega, Char.ofNat_toNat]

theorem front_three (low : 0x800 ≤ c.toNat) (high : c.toNat < 0x10000) :
    front (UInt8.ofNat (c.toNat / 4096 % 16 + 224))
        (UInt8.ofNat (c.toNat / 64 % 64 + 128) :: UInt8.ofNat (c.toNat % 64 + 128) :: rest) =
      ⟨some c, 2⟩ := by
  have hc := toNat_valid c
  have hb : (UInt8.ofNat (c.toNat / 4096 % 16 + 224)).toNat = c.toNat / 4096 % 16 + 224 :=
    toNat_ofNat (by omega)
  simp only [front, hb, within, decide_eq_true_iff, Bool.and_eq_true]
  rw [if_neg (by omega), if_neg (by omega)]
  -- the first byte of the range and the one before the surrogates bound the second byte
  split_ifs with h₀ h₁ h₂
  · exact frontThree_tail rest high (by omega) (by omega)
  · exact frontThree_tail rest high (by omega) (by omega)
  · exact frontThree_tail rest high (by omega) (by omega)
  all_goals omega

theorem frontFour_tail {low high : Nat} (hl : low ≤ c.toNat / 4096 % 64 + 128)
    (hh : c.toNat / 4096 % 64 + 128 ≤ high) :
    frontFour (c.toNat / 262144 % 8 + 240) low high
        (UInt8.ofNat (c.toNat / 4096 % 64 + 128) :: UInt8.ofNat (c.toNat / 64 % 64 + 128) ::
          UInt8.ofNat (c.toNat % 64 + 128) :: rest) =
      ⟨some c, 3⟩ := by
  have hc := toNat_valid c
  simp only [frontFour, within_tail _ hl hh, within_tail_any, if_true, payload_tail]
  rw [show (c.toNat / 262144 % 8 + 240) % 8 * 262144 + c.toNat / 4096 % 64 * 4096 +
    c.toNat / 64 % 64 * 64 + c.toNat % 64 = c.toNat by omega, Char.ofNat_toNat]

theorem front_four (low : 0x10000 ≤ c.toNat) :
    front (UInt8.ofNat (c.toNat / 262144 % 8 + 240))
        (UInt8.ofNat (c.toNat / 4096 % 64 + 128) :: UInt8.ofNat (c.toNat / 64 % 64 + 128) ::
          UInt8.ofNat (c.toNat % 64 + 128) :: rest) =
      ⟨some c, 3⟩ := by
  have hc := toNat_valid c
  have hb : (UInt8.ofNat (c.toNat / 262144 % 8 + 240)).toNat = c.toNat / 262144 % 8 + 240 :=
    toNat_ofNat (by omega)
  simp only [front, hb, within, decide_eq_true_iff, Bool.and_eq_true]
  rw [if_neg (by omega), if_neg (by omega), if_neg (by omega), if_neg (by omega), if_neg (by omega)]
  -- the first and the last byte of the range bound the second byte
  split_ifs with h₀ h₁ h₂
  · exact frontFour_tail rest (by omega) (by omega)
  · exact frontFour_tail rest (by omega) (by omega)
  · exact frontFour_tail rest (by omega) (by omega)
  all_goals omega

end Front

/-! ### Reading back -/

theorem pieces_encodeChar (c : Char) (rest : List UInt8) :
    pieces (String.utf8EncodeChar c ++ rest) = some c :: pieces rest := by
  have hc := toNat_valid c
  have hn : c.val.toNat = c.toNat := rfl
  simp only [String.utf8EncodeChar, hn]
  split_ifs with one two three
  · rw [List.singleton_append, pieces, front, toNat_ofNat (by omega), if_pos (by omega),
      Char.ofNat_toNat, List.drop_zero]
  · rw [List.cons_append, List.singleton_append, pieces, front_two _ (by omega) (by omega)]
    rfl
  · rw [List.cons_append, List.cons_append, List.singleton_append, pieces,
      front_three _ (by omega) (by omega)]
    rfl
  · rw [List.cons_append, List.cons_append, List.cons_append, List.singleton_append, pieces,
      front_four _ (by omega)]
    rfl

/-- The bytes of a text are its characters, none of them broken. -/
theorem pieces_encode (s : String) : pieces (encode s) = s.toList.map some := by
  rw [encode_eq_flatMap]
  induction s.toList with
  | nil => rw [List.flatMap_nil, pieces, List.map_nil]
  | cons c cs ih => rw [List.flatMap_cons, pieces_encodeChar, ih, List.map_cons]

/-- A text is read back from its bytes. -/
@[simp]
theorem decode?_encode (s : String) : decode? (encode s) = some s := by
  have h : (s.toList.map some).mapM id = some s.toList := by
    induction s.toList with
    | nil => rfl
    | cons c cs ih => rw [List.map_cons, List.mapM_cons, ih]; rfl
  rw [decode?, decodeChars?, pieces_encode, h, Option.map_some, String.ofList_toList]

@[simp]
theorem decodeLossy_encode (s : String) : decodeLossy (encode s) = s := by
  rw [decodeLossy, pieces_encode, List.map_map]
  exact (congrArg String.ofList (List.map_id s.toList)).trans String.ofList_toList

/-- Different texts have different bytes. -/
theorem encode_injective : Function.Injective encode := by
  intro s t h
  have hdecode := decode?_encode s
  rw [h, decode?_encode] at hdecode
  exact (Option.some.inj hdecode).symm

end MeshControl.Text.Utf8
