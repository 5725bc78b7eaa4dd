import Mathlib.Data.List.Forall2

/-!
# Lists put into the order of a text

Reports list things in the order of the text that they are shown by.  Facts about such lists: the
order in which distinct texts came in plays no part (`mergeSort_eq_of_perm`), nor does the order of
things that are listed alike (`map_mergeSort_eq_of_perm`); things that are shown by the same texts
are put into the same places (`forall₂_mergeSort`); and texts in order are listed each once if
neighbours that are equal are taken for one (`eraseReps_spec`).
-/

namespace MeshControl

variable {α β : Type} {key : α → String} {l l' : List α}

theorem pairwise_mergeSort_key (l : List α) :
    (l.mergeSort fun a b => key a ≤ key b).Pairwise fun a b => key a ≤ key b := by
  have htrans : ∀ a b c : α, decide (key a ≤ key b) = true → decide (key b ≤ key c) = true →
      decide (key a ≤ key c) = true := by
    intro a b c hab hbc
    exact decide_eq_true (String.le_trans (of_decide_eq_true hab) (of_decide_eq_true hbc))
  have htotal : ∀ a b : α, (decide (key a ≤ key b) || decide (key b ≤ key a)) = true := by
    intro a b
    simpa using String.le_total (key a) (key b)
  have h := List.pairwise_mergeSort htrans htotal l
  simpa using h

/-- Lists with the same items are the same once they are in order, if no two items have one text. -/
theorem mergeSort_eq_of_perm (key : α → String) (hperm : l.Perm l')
    (hkey : ∀ a ∈ l, ∀ b ∈ l, key a = key b → a = b) :
    (l.mergeSort fun a b => key a ≤ key b) = l'.mergeSort fun a b => key a ≤ key b := by
  have hsorted : (l.mergeSort fun a b => key a ≤ key b).Perm
      (l'.mergeSort fun a b => key a ≤ key b) :=
    (List.mergeSort_perm _ _).trans (hperm.trans (List.mergeSort_perm _ _).symm)
  refine List.Perm.eq_of_pairwise ?_ (pairwise_mergeSort_key l) (pairwise_mergeSort_key l') hsorted
  intro a b ha hb hab hba
  have ha' : a ∈ l := List.mem_mergeSort.mp ha
  have hb' : b ∈ l := hperm.mem_iff.mpr (List.mem_mergeSort.mp hb)
  exact hkey a ha' b hb' (String.le_antisymm hab hba)

/-- What is read off the items of a list in order does not depend on the order they came in, if it
is the same for items of one text. -/
theorem map_mergeSort_eq_of_perm (key : α → String) (f : α → β) (hperm : l.Perm l')
    (hkey : ∀ a b, key a = key b → f a = f b) :
    (l.mergeSort fun a b => key a ≤ key b).map f =
      (l'.mergeSort fun a b => key a ≤ key b).map f := by
  -- the items are sorted along with what is read off them, and are told apart by their texts then
  let shown : α → String × β := fun a => (key a, f a)
  have hsorted : ∀ l : List α, (l.mergeSort fun a b => key a ≤ key b).map f =
      ((l.map shown).mergeSort fun p q => p.1 ≤ q.1).map Prod.snd := by
    intro l
    have hmap : (l.mergeSort fun a b => key a ≤ key b).map shown =
        (l.map shown).mergeSort fun p q => p.1 ≤ q.1 := List.map_mergeSort fun a _ b _ => rfl
    rw [← hmap, List.map_map]
    rfl
  have hshown : ((l.map shown).mergeSort fun p q => p.1 ≤ q.1) =
      (l'.map shown).mergeSort fun p q => p.1 ≤ q.1 := by
    refine mergeSort_eq_of_perm Prod.fst (hperm.map shown) ?_
    intro p hp q hq hpq
    obtain ⟨a, -, rfl⟩ := List.mem_map.mp hp
    obtain ⟨b, -, rfl⟩ := List.mem_map.mp hq
    exact Prod.ext hpq (hkey a b hpq)
  rw [hsorted, hsorted, hshown]

/-- **Sorting looks at texts only.** Lists that are related item by item, related items having the
same text, are still related item by item once they are in order. -/
theorem forall₂_mergeSort {other : β → String} {related : α → β → Prop} {ys : List β}
    (h : List.Forall₂ related l ys) (hkey : ∀ x y, related x y → key x = other y) :
    List.Forall₂ related (l.mergeSort fun a b => key a ≤ key b)
      (ys.mergeSort fun a b => other a ≤ other b) := by
  -- both lists are read off one list of pairs, and sorting commutes with that
  have hlength : l.length = ys.length := h.length_eq
  let pairs := l.zip ys
  have hpairs : ∀ p ∈ pairs, related p.1 p.2 := fun p hp => List.forall₂_zip h hp
  let sorted := pairs.mergeSort fun p q => key p.1 ≤ key q.1
  have hfirst : sorted.map Prod.fst = l.mergeSort fun a b => key a ≤ key b := by
    have hmap : pairs.map Prod.fst = l := List.map_fst_zip (Nat.le_of_eq hlength)
    rw [← hmap]
    exact List.map_mergeSort fun p _ q _ => rfl
  have hsecond : sorted.map Prod.snd = ys.mergeSort fun a b => other a ≤ other b := by
    have hmap : pairs.map Prod.snd = ys := List.map_snd_zip (Nat.le_of_eq hlength.symm)
    rw [← hmap]
    refine List.map_mergeSort fun p hp q hq => ?_
    rw [hkey _ _ (hpairs p hp), hkey _ _ (hpairs q hq)]
  rw [← hfirst, ← hsecond, List.forall₂_map_left_iff, List.forall₂_map_right_iff,
    List.forall₂_same]
  intro p hp
  exact hpairs p (List.mem_mergeSort.mp hp)

/-! ### Texts in order, each once -/

theorem lt_of_le_of_ne_text {x y : String} (hle : x ≤ y) (hne : x ≠ y) : x < y :=
  String.not_le.mp fun hge => hne (String.le_antisymm hle hge)

/-- Texts in their order, each once, are told by what stands among them. -/
theorem eq_of_pairwise_lt {xs ys : List String} (hxs : xs.Pairwise (· < ·))
    (hys : ys.Pairwise (· < ·)) (hmem : ∀ x, x ∈ xs ↔ x ∈ ys) : xs = ys := by
  have hnodup : ∀ {zs : List String}, zs.Pairwise (· < ·) → zs.Nodup := by
    intro zs h
    refine h.imp ?_
    rintro x _ hlt rfl
    exact String.lt_irrefl x hlt
  have hperm : xs.Perm ys := (List.perm_ext_iff_of_nodup (hnodup hxs) (hnodup hys)).mpr hmem
  exact List.Perm.eq_of_pairwise (fun x y _ _ hxy hyx => absurd hyx (String.lt_asymm hxy)) hxs hys
    hperm

/-- The scan that takes equal neighbours for one, on texts in order: it goes on with the text in
hand and puts down a text that is greater than it. -/
theorem exists_eraseReps_loop {x : String} {xs : List String} (h : (x :: xs).Pairwise (· ≤ ·))
    (done : List String) :
    ∃ rest, List.eraseRepsBy.loop (· == ·) x xs done = done.reverse ++ x :: rest ∧
      (x :: rest).Pairwise (· < ·) ∧ ∀ z, z ∈ x :: rest ↔ z ∈ x :: xs := by
  induction xs generalizing x done with
  | nil => exact ⟨[], by simp [List.eraseRepsBy.loop], List.pairwise_singleton _ _, fun z => .rfl⟩
  | cons y ys ih =>
    obtain ⟨hx, hys⟩ := List.pairwise_cons.mp h
    by_cases hxy : x = y
    · -- the text in hand stands for both
      subst hxy
      obtain ⟨rest, hloop, hrest, hmem⟩ := ih hys done
      refine ⟨rest, by simpa [List.eraseRepsBy.loop] using hloop, hrest, fun z => ?_⟩
      rw [hmem]
      simp
    · -- it is put down, and the next one is taken up
      have hlt : x < y := lt_of_le_of_ne_text (hx y List.mem_cons_self) hxy
      obtain ⟨rest, hloop, hrest, hmem⟩ := ih hys (x :: done)
      have hbehind : ∀ z ∈ y :: rest, x < z := by
        intro z hz
        have hyz : y ≤ z := by
          obtain rfl | hz := List.mem_cons.mp ((hmem z).mp hz)
          · exact String.le_refl _
          · exact (List.pairwise_cons.mp hys).1 z hz
        exact String.not_le.mp fun hzx => String.not_le.mpr hlt (String.le_trans hyz hzx)
      refine ⟨y :: rest, ?_, List.pairwise_cons.mpr ⟨hbehind, hrest⟩, fun z => ?_⟩
      · rw [List.eraseRepsBy.loop, beq_eq_false_iff_ne.mpr hxy, hloop, List.reverse_cons,
          List.append_assoc, List.singleton_append]
      · rw [List.mem_cons, hmem, ← List.mem_cons]

/-- **Each once.** Among texts in order, those that are left are the same and stand each once. -/
theorem eraseReps_spec {xs : List String} (h : xs.Pairwise (· ≤ ·)) :
    xs.eraseReps.Pairwise (· < ·) ∧ ∀ z, z ∈ xs.eraseReps ↔ z ∈ xs := by
  cases xs with
  | nil => exact ⟨.nil, fun z => .rfl⟩
  | cons x xs =>
    obtain ⟨rest, hloop, hrest, hmem⟩ := exists_eraseReps_loop h []
    have hall : (x :: xs).eraseReps = x :: rest := hloop
    rw [hall]
    exact ⟨hrest, hmem⟩

end MeshControl
