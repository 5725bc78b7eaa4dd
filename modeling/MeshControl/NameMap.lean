/-!
# Finite maps with names as keys

The daemon reports several tables from names to values.  `NameMap` holds their entries as a list in
which no name stands twice.  The order of the list is the order in which the names were first put in
and carries no meaning: two maps are the same (`agree`) if they have as many entries and each entry of
one is answered by an entry of the other.
-/

namespace MeshControl

/-- A finite map from names. -/
structure NameMap (α : Type) where
  entries : List (String × α)
  distinct : (entries.map Prod.fst).Nodup

namespace NameMap

variable {α : Type}

/-- The map without entries. -/
def empty : NameMap α := ⟨[], by simp⟩

instance : Inhabited (NameMap α) := ⟨empty⟩

/-- The value of a name. -/
def get? (m : NameMap α) (name : String) : Option α :=
  m.entries.lookup name

/-- Whether a name has a value. -/
def contains (m : NameMap α) (name : String) : Bool :=
  (m.get? name).isSome

/-- The number of names. -/
def size (m : NameMap α) : Nat :=
  m.entries.length

/-- The names. -/
def names (m : NameMap α) : List String :=
  m.entries.map Prod.fst

/-- Entries with a value put at a name: in place of the value it has, otherwise at the end. -/
def insertEntry (name : String) (value : α) : List (String × α) → List (String × α)
  | [] => [(name, value)]
  | (other, v) :: rest =>
    if other = name then (name, value) :: rest else (other, v) :: insertEntry name value rest

theorem mem_names_insertEntry {name x : String} {value : α} {l : List (String × α)}
    (h : x ∈ (insertEntry name value l).map Prod.fst) : x = name ∨ x ∈ l.map Prod.fst := by
  induction l with
  | nil => simpa [insertEntry] using h
  | cons e rest ih =>
    obtain ⟨other, v⟩ := e
    by_cases ho : other = name
    · simp only [insertEntry, ho, if_true, List.map_cons, List.mem_cons] at h ⊢
      rcases h with h | h
      · exact .inl h
      · exact .inr (.inr h)
    · simp only [insertEntry, ho, if_false, List.map_cons, List.mem_cons] at h ⊢
      rcases h with h | h
      · exact .inr (.inl h)
      · exact (ih h).imp id .inr

theorem nodup_insertEntry {name : String} {value : α} {l : List (String × α)}
    (h : (l.map Prod.fst).Nodup) : ((insertEntry name value l).map Prod.fst).Nodup := by
  induction l with
  | nil => simp [insertEntry]
  | cons e rest ih =>
    obtain ⟨other, v⟩ := e
    simp only [List.map_cons, List.nodup_cons] at h
    by_cases ho : other = name
    · subst ho
      simpa [insertEntry] using h
    · simp only [insertEntry, ho, if_false, List.map_cons, List.nodup_cons]
      refine ⟨fun hm => ?_, ih h.2⟩
      rcases mem_names_insertEntry hm with hm | hm
      · exact ho hm
      · exact h.1 hm

/-- Puts a value at a name, in place of the value it has. -/
def insert (m : NameMap α) (name : String) (value : α) : NameMap α :=
  ⟨insertEntry name value m.entries, nodup_insertEntry m.distinct⟩

/-- The map with the given entries, the last of each name kept. -/
def ofList (entries : List (String × α)) : NameMap α :=
  entries.foldl (fun m (name, value) => m.insert name value) empty

/-- The map with each value changed. -/
def map {β : Type} (f : α → β) (m : NameMap α) : NameMap β :=
  ⟨m.entries.map fun (name, value) => (name, f value), by
    simpa [List.map_map, Function.comp_def] using m.distinct⟩

/-- Whether two maps have the same names with related values. -/
def agree (related : α → α → Bool) (m n : NameMap α) : Bool :=
  m.size == n.size
    && m.entries.all fun (name, x) => (n.get? name).any fun y => related x y

/-- Two maps are equal if they have the same names with equal values. -/
instance [BEq α] : BEq (NameMap α) := ⟨agree (· == ·)⟩

/-- The entries in the order of their names. -/
def sortedEntries (m : NameMap α) : List (String × α) :=
  m.entries.mergeSort fun a b => a.1 ≤ b.1

end NameMap

end MeshControl
