import Mathlib.Data.List.Basic
import MeshControl.Proofs.Address.Expanded

/-!
# The expanded form place by place

The expanded form of an address of version 6 has colons at every fifth place and small digits at all
others (`IsPlaced`), and 39 places in all; every such text is one (`isEightGroups_iff_isPlaced`).
So a text of this shape that is too short begins the expanded form of some address
(`exists_expandedChars_iff`).
-/

namespace MeshControl.Address

open MeshControl.Text

variable {cs g rest : List Char}

/-- Colons at every fifth place and small digits at all others. -/
def IsPlaced (cs : List Char) : Prop :=
  ∀ k c, cs[k]? = some c → if k % 5 = 4 then c = ':' else IsSmallHex c

theorem isPlaced_of_length_eq_four (hlength : g.length = 4) :
    IsPlaced g ↔ ∀ c ∈ g, IsSmallHex c := by
  constructor
  · intro h c hc
    obtain ⟨k, hk, rfl⟩ := List.getElem_of_mem hc
    have hplace := h k _ (List.getElem?_eq_getElem hk)
    rwa [if_neg (by omega)] at hplace
  · intro h k c hk
    have hlt := (List.getElem?_eq_some_iff.mp hk).1
    rw [if_neg (by omega)]
    exact h c (List.mem_of_getElem? hk)

/-- A group with a colon behind it shifts what follows by five places. -/
theorem isPlaced_group_append_iff (hlength : g.length = 4) :
    IsPlaced (g ++ ':' :: rest) ↔ (∀ c ∈ g, IsSmallHex c) ∧ IsPlaced rest := by
  have hbehind : ∀ k, (g ++ ':' :: rest)[k + 5]? = rest[k]? := by
    intro k
    rw [List.getElem?_append_right (by omega), hlength, show k + 5 - 4 = k + 1 by omega,
      List.getElem?_cons_succ]
  rw [← isPlaced_of_length_eq_four hlength]
  constructor
  · intro h
    constructor
    · intro k c hk
      have hlt := (List.getElem?_eq_some_iff.mp hk).1
      exact h k c (by rw [List.getElem?_append_left hlt, hk])
    · intro k c hk
      have hplace := h (k + 5) c ((hbehind k).trans hk)
      rwa [Nat.add_mod_right] at hplace
  · rintro ⟨hg, hrest⟩ k c hk
    rcases Nat.lt_trichotomy k 4 with hlt | rfl | hgt
    · exact hg k c (by rwa [List.getElem?_append_left (by omega)] at hk)
    · rw [List.getElem?_append_right (by omega), hlength] at hk
      rw [if_pos rfl]
      exact (Option.some.inj hk).symm
    · obtain ⟨j, rfl⟩ : ∃ j, k = j + 5 := ⟨k - 5, by omega⟩
      rw [Nat.add_mod_right]
      exact hrest j c ((hbehind j).symm.trans hk)

theorem isPlaced_intercalate {groups : List (List Char)}
    (h : ∀ g ∈ groups, g.length = 4 ∧ ∀ c ∈ g, IsSmallHex c) :
    IsPlaced ([':'].intercalate groups) := by
  induction groups with
  | nil => intro k c hk; cases hk
  | cons g groups ih =>
    obtain ⟨⟨hlength, hsmall⟩, hgroups⟩ := List.forall_mem_cons.mp h
    cases groups with
    | nil =>
      rw [List.intercalate_singleton]
      exact (isPlaced_of_length_eq_four hlength).mpr hsmall
    | cons next groups =>
      rw [List.intercalate_cons_cons, List.append_assoc]
      exact (isPlaced_group_append_iff hlength).mpr ⟨hsmall, ih hgroups⟩

/-- Characters at these places are groups with colons between them. -/
theorem exists_groups_of_isPlaced {n : Nat} (h : IsPlaced cs) (hlength : cs.length = 5 * n + 4) :
    ∃ groups : List (List Char), groups.length = n + 1 ∧
      (∀ g ∈ groups, g.length = 4 ∧ ∀ c ∈ g, IsSmallHex c) ∧ cs = [':'].intercalate groups := by
  induction n generalizing cs with
  | zero =>
    refine ⟨[cs], rfl, ?_, (List.intercalate_singleton).symm⟩
    intro g hg
    obtain rfl := List.mem_singleton.mp hg
    exact ⟨hlength, (isPlaced_of_length_eq_four hlength).mp h⟩
  | succ n ih =>
    have hfirst : (cs.take 4).length = 4 := by
      rw [List.length_take]
      omega
    have hcolon : cs[4] = ':' := by
      have hplace := h 4 _ (List.getElem?_eq_getElem (by omega))
      rwa [if_pos rfl] at hplace
    have hsplit : cs = cs.take 4 ++ ':' :: cs.drop 5 := by
      rw [← hcolon, ← List.drop_eq_getElem_cons, List.take_append_drop]
    rw [hsplit, isPlaced_group_append_iff hfirst] at h
    obtain ⟨groups, hcount, hgroups, hrest⟩ := ih h.2 (by rw [List.length_drop]; omega)
    have hne : groups ≠ [] := List.ne_nil_of_length_eq_add_one hcount
    obtain ⟨next, groups, rfl⟩ := List.exists_cons_of_ne_nil hne
    refine ⟨cs.take 4 :: next :: groups, by rw [List.length_cons, hcount], ?_, ?_⟩
    · exact List.forall_mem_cons.mpr ⟨⟨hfirst, h.1⟩, hgroups⟩
    · rw [List.intercalate_cons_cons, ← hrest, List.append_assoc]
      exact hsplit

/-- **Eight groups, place by place.** -/
theorem isEightGroups_iff_isPlaced {x : String} :
    IsEightGroups x ↔ x.toList.length = 39 ∧ IsPlaced x.toList := by
  constructor
  · rintro ⟨hlength, groups, _, hgroups, hx⟩
    exact ⟨hlength, hx ▸ isPlaced_intercalate hgroups⟩
  · rintro ⟨hlength, h⟩
    exact ⟨hlength, exists_groups_of_isPlaced (n := 7) h hlength⟩

/-- Characters that are completed to 39 places, with zeros in place of digits. -/
def completed (cs : List Char) : List Char :=
  (List.range 39).map fun k => cs[k]?.getD (if k % 5 = 4 then ':' else '0')

theorem getElem?_completed {k : Nat} (hk : k < 39) :
    (completed cs)[k]? = some (cs[k]?.getD (if k % 5 = 4 then ':' else '0')) := by
  simp [completed, hk]

theorem isPlaced_completed (h : IsPlaced cs) : IsPlaced (completed cs) := by
  intro k c hk
  have hlt : k < 39 := by
    have := (List.getElem?_eq_some_iff.mp hk).1
    simpa [completed] using this
  rw [getElem?_completed hlt] at hk
  obtain rfl := Option.some.inj hk
  cases hc : cs[k]? with
  | some c => exact h k c hc
  | none =>
    split_ifs
    · rfl
    · exact .inl (by decide)

theorem prefix_completed (hlength : cs.length ≤ 39) : cs <+: completed cs := by
  refine List.prefix_iff_getElem?.mpr fun k hk => ?_
  rw [getElem?_completed (by omega), List.getElem?_eq_getElem hk, Option.getD_some]

/-- **What expanded forms begin with**: colons and digits in their places, as many as there are
places. -/
theorem exists_expandedChars_iff :
    (∃ ip : V6, cs <+: ip.expandedChars) ↔ cs.length ≤ 39 ∧ IsPlaced cs := by
  constructor
  · rintro ⟨ip, hprefix⟩
    obtain ⟨hlength, hplaced⟩ := isEightGroups_iff_isPlaced.mp (isEightGroups_iff.mpr ⟨ip, rfl⟩)
    rw [String.toList_ofList] at hlength hplaced
    refine ⟨hlength ▸ hprefix.length_le, fun k c hk => hplaced k c ?_⟩
    obtain ⟨hlt, rfl⟩ := List.getElem?_eq_some_iff.mp hk
    exact List.prefix_iff_getElem?.mp hprefix k hlt
  · rintro ⟨hlength, hplaced⟩
    have hgroups : IsEightGroups (String.ofList (completed cs)) := by
      rw [isEightGroups_iff_isPlaced, String.toList_ofList]
      exact ⟨by simp [completed], isPlaced_completed hplaced⟩
    obtain ⟨ip, hip⟩ := isEightGroups_iff.mp hgroups
    refine ⟨ip, ?_⟩
    rw [← String.ofList_inj.mp hip]
    exact prefix_completed hlength

end MeshControl.Address
