import Mathlib.Data.List.Perm.Subperm
import MeshControl.NameMap
import MeshControl.Proofs.Sorting

/-!
# Maps by value

The order of the entries of a `NameMap` carries no meaning: what counts is the value of each name.
`agree` compares sizes and looks up each entry of one map in the other, which is one-sided; it is an
equivalence all the same, because two maps of one size with an inclusion of names have the same
names (`names_subset_of_size_eq`).  So two maps agree if and only if they have related values at
each name (`agree_iff`).  In the order of their names the entries depend on the values alone
(`sortedEntries_eq`).
-/

namespace MeshControl.NameMap

variable {α β : Type} {m n : NameMap α} {name : String} {value : α}

/-- A name has the value that stands in its entry. -/
theorem get?_eq_some_iff : m.get? name = some value ↔ (name, value) ∈ m.entries := by
  unfold get?
  constructor
  · intro h
    obtain ⟨before, after, heq, _⟩ := List.lookup_eq_some_iff.mp h
    rw [heq]
    exact List.mem_append_right _ List.mem_cons_self
  · intro h
    obtain ⟨before, after, heq⟩ := List.append_of_mem h
    refine List.lookup_eq_some_iff.mpr ⟨before, after, heq, ?_⟩
    -- an entry of the same name further in front would be a second one
    intro p hp
    have hnodup := m.distinct
    rw [heq, List.map_append, List.map_cons] at hnodup
    have hne : p.1 ≠ name := (List.nodup_append.mp hnodup).2.2 _ (List.mem_map_of_mem hp) _
      List.mem_cons_self
    simpa using hne.symm

/-- A name that stands in a map has a value. -/
theorem mem_names_iff : name ∈ m.names ↔ ∃ value, m.get? name = some value := by
  constructor
  · intro h
    obtain ⟨⟨_, value⟩, hmem, rfl⟩ := List.mem_map.mp h
    exact ⟨value, get?_eq_some_iff.mpr hmem⟩
  · rintro ⟨value, h⟩
    exact List.mem_map_of_mem (get?_eq_some_iff.mp h)

theorem get?_eq_none_iff : m.get? name = none ↔ name ∉ m.names := by
  rw [mem_names_iff]
  cases m.get? name with
  | none => simp
  | some value => simp

theorem length_names : m.names.length = m.size :=
  List.length_map _

/-- **One inclusion is enough.**  Two maps of one size have the same names if those of one are among
those of the other. -/
theorem names_subset_of_size_eq (hsize : m.size = n.size) (h : m.names ⊆ n.names) :
    n.names ⊆ m.names := by
  have hsubperm : List.Subperm m.names n.names := List.subperm_of_subset m.distinct h
  have hlength : n.names.length ≤ m.names.length := by
    rw [length_names, length_names]
    exact Nat.le_of_eq hsize.symm
  exact (hsubperm.perm_of_length_le hlength).symm.subset

/-- What one map has to find in the other. -/
theorem agree_iff_entries {related : α → α → Bool} :
    m.agree related n = true ↔ m.size = n.size ∧
      ∀ name x, m.get? name = some x → ∃ y, n.get? name = some y ∧ related x y = true := by
  unfold agree
  rw [Bool.and_eq_true, beq_iff_eq, List.all_eq_true]
  refine and_congr_right fun _ => ?_
  constructor
  · intro h name x hx
    have hany := h (name, x) (get?_eq_some_iff.mp hx)
    dsimp only at hany
    cases hy : n.get? name with
    | none =>
      rw [hy] at hany
      cases hany
    | some y =>
      rw [hy] at hany
      exact ⟨y, rfl, hany⟩
  · rintro h ⟨name, x⟩ hmem
    obtain ⟨y, hy, hxy⟩ := h name x (get?_eq_some_iff.mpr hmem)
    dsimp only
    rw [hy]
    exact hxy

/-- **Maps agree by value.** Where values are related if they look the same, maps agree if and only
if their values at each name look the same. -/
theorem agree_iff {related : α → α → Bool} {f : α → β}
    (hrelated : ∀ x y, related x y = true ↔ f x = f y) :
    m.agree related n = true ↔ ∀ name, (m.get? name).map f = (n.get? name).map f := by
  rw [agree_iff_entries]
  constructor
  · rintro ⟨hsize, hfound⟩ name
    have hsubset : m.names ⊆ n.names := by
      intro name hname
      obtain ⟨x, hx⟩ := mem_names_iff.mp hname
      obtain ⟨y, hy, _⟩ := hfound name x hx
      exact mem_names_iff.mpr ⟨y, hy⟩
    cases hx : m.get? name with
    | none =>
      have hnotMem : name ∉ n.names := fun hmem =>
        get?_eq_none_iff.mp hx (names_subset_of_size_eq hsize hsubset hmem)
      rw [get?_eq_none_iff.mpr hnotMem]
    | some x =>
      obtain ⟨y, hy, hxy⟩ := hfound name x hx
      rw [hy, Option.map_some, Option.map_some, (hrelated x y).mp hxy]
  · intro h
    have hiff : ∀ name, name ∈ m.names ↔ name ∈ n.names := by
      intro name
      rw [mem_names_iff, mem_names_iff, ← Option.isSome_iff_exists, ← Option.isSome_iff_exists,
        ← Option.isSome_map (f := f), h name, Option.isSome_map]
    have hperm : m.names.Perm n.names := (List.perm_ext_iff_of_nodup m.distinct n.distinct).mpr hiff
    refine ⟨?_, ?_⟩
    · rw [← length_names, ← length_names, hperm.length_eq]
    · intro name x hx
      have hname := h name
      rw [hx, Option.map_some] at hname
      obtain ⟨y, hy, hxy⟩ := Option.map_eq_some_iff.mp hname.symm
      exact ⟨y, hy, (hrelated x y).mpr hxy.symm⟩

/-! ### Entries put in one by one -/

theorem insertEntry_of_notMem {l : List (String × α)} (h : name ∉ l.map Prod.fst) :
    insertEntry name value l = l ++ [(name, value)] := by
  induction l with
  | nil => rfl
  | cons e rest ih =>
    obtain ⟨other, v⟩ := e
    rw [List.map_cons, List.mem_cons, not_or] at h
    rw [insertEntry, if_neg (Ne.symm h.1), ih h.2, List.cons_append]

theorem entries_foldl_insert {entries : List (String × α)}
    (h : ((m.entries ++ entries).map Prod.fst).Nodup) :
    (entries.foldl (fun m (name, value) => m.insert name value) m).entries = m.entries ++ entries := by
  induction entries generalizing m with
  | nil => rw [List.foldl_nil, List.append_nil]
  | cons e rest ih =>
    obtain ⟨name, value⟩ := e
    have hnotMem : name ∉ m.entries.map Prod.fst := by
      intro hmem
      rw [List.map_append, List.map_cons] at h
      exact (List.nodup_append.mp h).2.2 name hmem name List.mem_cons_self rfl
    have hinsert : (m.insert name value).entries = m.entries ++ [(name, value)] :=
      insertEntry_of_notMem hnotMem
    have happend : (m.insert name value).entries ++ rest = m.entries ++ (name, value) :: rest := by
      rw [hinsert, List.append_assoc, List.singleton_append]
    rw [List.foldl_cons, ih (by rw [happend]; exact h), happend]

/-- Entries with distinct names are the entries of their map. -/
theorem entries_ofList {entries : List (String × α)} (h : (entries.map Prod.fst).Nodup) :
    (ofList entries).entries = entries :=
  entries_foldl_insert (m := empty) h

/-- Maps whose entries are the same in some order have the same values. -/
theorem get?_eq_of_perm (h : m.entries.Perm n.entries) : m.get? = n.get? := by
  funext name
  refine Option.ext fun value => ?_
  rw [get?_eq_some_iff, get?_eq_some_iff, h.mem_iff]

/-- Entries in another order make up a map with the same values. -/
theorem get?_ofList_of_perm {entries : List (String × α)} (h : entries.Perm m.entries) :
    (ofList entries).get? = m.get? := by
  have hnodup : (entries.map Prod.fst).Nodup := (h.map Prod.fst).nodup_iff.mpr m.distinct
  refine get?_eq_of_perm ?_
  rw [entries_ofList hnodup]
  exact h

/-! ### Entries in order -/

theorem nodup_entries (m : NameMap α) : m.entries.Nodup :=
  List.Pairwise.of_map Prod.fst (fun _ _ hne heq => hne (congrArg Prod.fst heq)) m.distinct

/-- Maps with the same values have the same entries. -/
theorem entries_perm (h : m.get? = n.get?) : m.entries.Perm n.entries := by
  refine (List.perm_ext_iff_of_nodup m.nodup_entries n.nodup_entries).mpr ?_
  rintro ⟨name, value⟩
  rw [← get?_eq_some_iff, ← get?_eq_some_iff, h]

/-- **The order of the entries carries no meaning**: put into the order of their names they are the
same for maps with the same values. -/
theorem sortedEntries_eq (h : m.get? = n.get?) : m.sortedEntries = n.sortedEntries := by
  refine mergeSort_eq_of_perm Prod.fst (entries_perm h) ?_
  rintro ⟨name, x⟩ hx ⟨_, y⟩ hy rfl
  have hsome : some x = some y := (get?_eq_some_iff.mpr hx).symm.trans (get?_eq_some_iff.mpr hy)
  rw [Option.some.inj hsome]

end MeshControl.NameMap
