import Mathlib.Algebra.Order.Ring.Nat
import Mathlib.Data.List.Induction
import Mathlib.Tactic.IntervalCases
import Mathlib.Tactic.SplitIfs
import MeshControl.Text.Digits

/-!
# Digits as characters and as numbers

The digits of a number are below ten, do not begin with zero unless the number is zero, and make up
the number (`foldl_digits`).  A number that is written in decimal or hexadecimal digits is read back,
with and without zeros in front, and whatever is read as a number consists of digits.
-/

namespace MeshControl.Text

variable {d n : Nat}

theorem decimalValue?_digitChar : ∀ d < 10, decimalValue? (Nat.digitChar d) = some d := by
  decide

theorem toNat_digitChar : ∀ d < 10, (Nat.digitChar d).toNat - '0'.toNat = d := by
  decide

/-- The digits of a number, those in front and the last one. -/
theorem digits_eq_if : digits n = if n < 10 then [n] else digits (n / 10) ++ [n % 10] := by
  unfold digits decimal
  by_cases h : n < 10
  · rw [if_pos h, Nat.toDigits_of_lt_base h, List.map_singleton, toNat_digitChar n h]
  · have hmod : n % 10 < 10 := Nat.mod_lt _ (by omega)
    rw [if_neg h, Nat.toDigits_of_base_le (by omega) (by omega), List.map_append, List.map_singleton,
      toNat_digitChar _ hmod]

theorem digits_ne_nil : digits n ≠ [] := by
  rw [digits_eq_if]
  split
  · exact List.cons_ne_nil _ _
  · exact List.append_ne_nil_of_right_ne_nil _ (List.cons_ne_nil _ _)

theorem lt_of_mem_digits (h : d ∈ digits n) : d < 10 := by
  induction n using Nat.strongRecOn with
  | ind n ih =>
    rw [digits_eq_if] at h
    split at h
    · rwa [List.mem_singleton.mp h]
    · rcases List.mem_append.mp h with h | h
      · exact ih (n / 10) (by omega) h
      · rw [List.mem_singleton.mp h]
        omega

/-- Zero in front of other digits is no digit of a number. -/
theorem head_digits_ne_zero (h : n ≠ 0) : (digits n).head digits_ne_nil ≠ 0 := by
  induction n using Nat.strongRecOn with
  | ind n ih =>
    by_cases hn : n < 10
    · simp only [digits_eq_if (n := n), if_pos hn, List.head_singleton]
      exact h
    · simp only [digits_eq_if (n := n), if_neg hn, List.head_append_of_ne_nil digits_ne_nil]
      exact ih (n / 10) (by omega) (by omega)

/-- The digits of a number make up the number. -/
theorem foldl_digits : (digits n).foldl (fun m d => 10 * m + d) 0 = n := by
  unfold digits decimal
  rw [List.foldl_map]
  exact Nat.ofDigitChars_ten_toDigits

/-! ### Hexadecimal digits -/

theorem hexValue?_digitChar : ∀ d < 16, hexValue? (Nat.digitChar d) = some d := by
  decide

theorem continueNumber?_append {value? : Char → Option Nat} {base start m : Nat} {cs ds : List Char}
    (h : continueNumber? value? base start cs = some m) :
    continueNumber? value? base start (cs ++ ds) = continueNumber? value? base m ds := by
  induction cs generalizing start with
  | nil =>
    obtain rfl : start = m := Option.some.inj h
    rfl
  | cons c rest ih =>
    rw [continueNumber?] at h
    obtain ⟨d, hd, hrest⟩ := Option.bind_eq_some_iff.mp h
    rw [List.cons_append, continueNumber?, hd]
    exact ih hrest

theorem continueNumber?_hexPadded (width : Nat) (h : n < 16 ^ width) :
    continueNumber? hexValue? 16 0 (hexPadded width n) = some n := by
  induction width generalizing n with
  | zero =>
    obtain rfl : n = 0 := by omega
    rfl
  | succ width ih =>
    have hfront := ih (n := n / 16) (by rw [Nat.pow_succ] at h; omega)
    have hlast : hexValue? (Nat.digitChar (n % 16)) = some (n % 16) :=
      hexValue?_digitChar _ (Nat.mod_lt _ (by omega))
    rw [hexPadded, continueNumber?_append hfront, continueNumber?, hlast]
    show some (16 * (n / 16) + n % 16) = some n
    rw [Nat.div_add_mod]

/-- A number in so many hexadecimal digits is read back. -/
theorem hexadecimal?_hexPadded {width : Nat} (hwidth : 0 < width) (h : n < 16 ^ width) :
    hexadecimal? (hexPadded width n) = some n := by
  have hne : (hexPadded width n).isEmpty = false := by
    rw [List.isEmpty_eq_false_iff, ← List.length_pos_iff, length_hexPadded]
    exact hwidth
  rw [hexadecimal?, hne]
  exact continueNumber?_hexPadded width h

/-! ### Numbers without zeros in front -/

section Read

variable {value? : Char → Option Nat} {base start : Nat} {cs : List Char}

/-- The digits of a number are read back in every base whose digits are read. -/
theorem continueNumber?_toDigits (hbase : 1 < base)
    (hdigit : ∀ d < base, value? (Nat.digitChar d) = some d) (n : Nat) :
    continueNumber? value? base 0 (Nat.toDigits base n) = some n := by
  induction n using Nat.strongRecOn with
  | ind n ih =>
    by_cases h : n < base
    · rw [Nat.toDigits_of_lt_base h, continueNumber?, hdigit n h]
      show some (base * 0 + n) = some n
      rw [Nat.mul_zero, Nat.zero_add]
    · have hfront := ih (n / base) (Nat.div_lt_self (by omega) hbase)
      have hlast := hdigit (n % base) (Nat.mod_lt _ (by omega))
      rw [Nat.toDigits_of_base_le hbase (by omega), continueNumber?_append hfront, continueNumber?,
        hlast]
      show some (base * (n / base) + n % base) = some n
      rw [Nat.div_add_mod]

/-- What is read as a number consists of digits. -/
theorem isSome_of_continueNumber? (h : continueNumber? value? base start cs = some n) :
    ∀ c ∈ cs, (value? c).isSome = true := by
  induction cs generalizing start with
  | nil => exact nofun
  | cons c rest ih =>
    rw [continueNumber?] at h
    obtain ⟨d, hd, hrest⟩ := Option.bind_eq_some_iff.mp h
    intro x hx
    rcases List.mem_cons.mp hx with rfl | hx
    · rw [hd]
      rfl
    · exact ih hrest x hx

end Read

theorem decimal?_decimal (n : Nat) : decimal? (decimal n) = some n := by
  have hne : (decimal n).isEmpty = false := List.isEmpty_eq_false_iff.mpr Nat.toDigits_ne_nil
  rw [decimal?, hne]
  exact continueNumber?_toDigits (by omega) decimalValue?_digitChar n

theorem hexadecimal?_hexadecimal (n : Nat) : hexadecimal? (hexadecimal n) = some n := by
  have hne : (hexadecimal n).isEmpty = false := List.isEmpty_eq_false_iff.mpr Nat.toDigits_ne_nil
  rw [hexadecimal?, hne]
  exact continueNumber?_toDigits (by omega) hexValue?_digitChar n

theorem isSome_of_decimal? {cs : List Char} (h : decimal? cs = some n) :
    ∀ c ∈ cs, (decimalValue? c).isSome = true := by
  unfold decimal? at h
  split at h
  · cases h
  · exact isSome_of_continueNumber? h

theorem isSome_of_hexadecimal? {cs : List Char} (h : hexadecimal? cs = some n) :
    cs ≠ [] ∧ ∀ c ∈ cs, (hexValue? c).isSome = true := by
  unfold hexadecimal? at h
  split at h
  · cases h
  · rename_i hne
    exact ⟨fun hnil => hne (hnil ▸ rfl), isSome_of_continueNumber? h⟩

/-- A decimal digit is a hexadecimal one. -/
theorem isSome_hexValue?_of_decimal {c : Char} (h : (decimalValue? c).isSome = true) :
    (hexValue? c).isSome = true := by
  unfold decimalValue? at h
  unfold hexValue?
  split at h
  · rename_i hdigit
    rw [if_pos hdigit]
    rfl
  · cases h

/-- The codes of hexadecimal digits. -/
theorem toNat_of_hex {c : Char} (h : (hexValue? c).isSome = true) :
    48 ≤ c.toNat ∧ c.toNat ≤ 57 ∨ 65 ≤ c.toNat ∧ c.toNat ≤ 70 ∨ 97 ≤ c.toNat ∧ c.toNat ≤ 102 := by
  unfold hexValue? at h
  split_ifs at h with hdigit hsmall hcapital
  · exact .inl hdigit
  · exact .inr (.inr hsmall)
  · exact .inr (.inl hcapital)
  · cases h

/-! ### Small hexadecimal digits -/

/-- A hexadecimal digit that is no capital. -/
def IsSmallHex (c : Char) : Prop :=
  '0' ≤ c ∧ c ≤ '9' ∨ 'a' ≤ c ∧ c ≤ 'f'

instance (c : Char) : Decidable (IsSmallHex c) :=
  inferInstanceAs (Decidable ('0' ≤ c ∧ c ≤ '9' ∨ 'a' ≤ c ∧ c ≤ 'f'))

theorem isSmallHex_digitChar : ∀ d < 16, IsSmallHex (Nat.digitChar d) := by
  decide

theorem exists_digitChar {c : Char} (h : IsSmallHex c) : ∃ d < 16, Nat.digitChar d = c := by
  have hchar : c = Char.ofNat c.toNat := (Char.ofNat_toNat c).symm
  have hcode : 48 ≤ c.toNat ∧ c.toNat ≤ 57 ∨ 97 ≤ c.toNat ∧ c.toNat ≤ 102 := h
  rw [hchar]
  generalize c.toNat = code at hcode
  rcases hcode with ⟨hlow, hhigh⟩ | ⟨hlow, hhigh⟩
  · refine ⟨code - 48, by omega, ?_⟩
    interval_cases code <;> rfl
  · refine ⟨code - 87, by omega, ?_⟩
    interval_cases code <;> rfl

theorem isSmallHex_of_mem_hexPadded {width : Nat} {c : Char} (h : c ∈ hexPadded width n) :
    IsSmallHex c := by
  induction width generalizing n with
  | zero => cases h
  | succ width ih =>
    rcases List.mem_append.mp h with h | h
    · exact ih h
    · rw [List.mem_singleton.mp h]
      exact isSmallHex_digitChar _ (Nat.mod_lt _ (by omega))

/-- Small digits are the digits of a number with zeros in front. -/
theorem exists_hexPadded {cs : List Char} (h : ∀ c ∈ cs, IsSmallHex c) :
    ∃ n < 16 ^ cs.length, hexPadded cs.length n = cs := by
  induction cs using List.reverseRecOn with
  | nil => exact ⟨0, Nat.one_pos, rfl⟩
  | append_singleton front last ih =>
    obtain ⟨n, hn, hfront⟩ := ih fun c hc => h c (List.mem_append_left _ hc)
    obtain ⟨d, hd, hlast⟩ := exists_digitChar (h last (List.mem_append_right _ List.mem_cons_self))
    refine ⟨16 * n + d, ?_, ?_⟩
    · rw [List.length_append, List.length_singleton, Nat.pow_succ]
      omega
    · have hdiv : (16 * n + d) / 16 = n := by omega
      have hmod : (16 * n + d) % 16 = d := by omega
      rw [List.length_append, List.length_singleton, hexPadded, hdiv, hmod, hfront, hlast]

end MeshControl.Text
