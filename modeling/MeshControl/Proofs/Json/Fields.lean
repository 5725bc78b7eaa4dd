import Mathlib.Data.List.Basic
import Mathlib.Tactic.SplitIfs
import MeshControl.Json.Decoder

/-!
# Which fields an object gives

The members of an object as a record sees them: what stands under a name (`under`), whatever stands
around it.  An object in which every name is a text and no known name stands twice gives each known
field exactly what stands under its name (`fields?_object`), so a decoder of records is known from
what stands under its names.
-/

namespace MeshControl.Json

variable {α : Type} {names : List String} {members : List (Option String × Node)} {name : String}

/-- What stands under a name, as often as it stands there. -/
def under (name : String) (members : List (Option String × Node)) : List Node :=
  (members.filter fun m => m.1 = some name).map Prod.snd

theorem under_cons_self (item : Node) :
    under name ((some name, item) :: members) = item :: under name members := by
  rw [under, List.filter_cons_of_pos (by simp)]
  rfl

theorem under_cons_of_ne {other : String} (h : other ≠ name) (item : Node) :
    under name ((some other, item) :: members) = under name members := by
  rw [under, List.filter_cons_of_neg (by simpa using h)]
  rfl

theorem under_length_le_cons (m : Option String × Node) :
    (under name members).length ≤ (under name (m :: members)).length := by
  simp only [under, List.length_map]
  exact (List.sublist_cons_self m members).filter _ |>.length_le

/-- The names of an object are texts, and none of the known ones stands twice. -/
structure IsPlain (names : List String) (members : List (Option String × Node)) : Prop where
  isSome : ∀ m ∈ members, m.1.isSome = true
  once : ∀ name ∈ names, (under name members).length ≤ 1

theorem IsPlain.tail {m : Option String × Node} (h : IsPlain names (m :: members)) :
    IsPlain names members where
  isSome x hx := h.isSome x (List.mem_cons_of_mem m hx)
  once name hname := Nat.le_trans (under_length_le_cons m) (h.once name hname)

/-- A known field of an object that could be read is what stands under its name. -/
theorem Fields.lookup_of_ofMembers? {given : List (String × Node)}
    (h : Fields.ofMembers? names members = some given) (hname : name ∈ names) :
    given.lookup name = (under name members).head? := by
  induction members generalizing given with
  | nil =>
    cases h
    rfl
  | cons m rest ih =>
    obtain ⟨_ | other, item⟩ := m
    · cases h
    · simp only [Fields.ofMembers?, bind, Option.bind_some] at h
      obtain ⟨behind, hbehind, h⟩ := Option.bind_eq_some_iff.mp h
      by_cases hknown : names.contains other = true
      · rw [if_pos hknown] at h
        split_ifs at h with honce
        cases h
        by_cases heq : other = name
        · subst heq
          rw [List.lookup_cons_self, under_cons_self, List.head?_cons]
        · rw [List.lookup_cons, beq_eq_false_iff_ne.mpr (Ne.symm heq), under_cons_of_ne heq,
            ih hbehind]
      · rw [if_neg hknown] at h
        cases h
        have hne : other ≠ name := fun heq => hknown (List.contains_iff_mem.mpr (heq ▸ hname))
        rw [under_cons_of_ne hne, ih hbehind]

theorem Fields.ofMembers?_of_isPlain (h : IsPlain names members) :
    ∃ given, Fields.ofMembers? names members = some given := by
  induction members with
  | nil => exact ⟨[], rfl⟩
  | cons m rest ih =>
    obtain ⟨given, hgiven⟩ := ih h.tail
    obtain ⟨_ | other, item⟩ := m
    · cases h.isSome _ List.mem_cons_self
    · simp only [Fields.ofMembers?, hgiven, Option.bind_some, bind]
      by_cases hknown : names.contains other = true
      · -- the name stands here, so it stands nowhere behind
        have hother := List.contains_iff_mem.mp hknown
        have honce := h.once other hother
        rw [under_cons_self, List.length_cons] at honce
        have hrest : under other rest = [] := List.eq_nil_of_length_eq_zero (by omega)
        have hnone : given.lookup other = none := by
          rw [lookup_of_ofMembers? hgiven hother, hrest, List.head?_nil]
        rw [if_pos hknown, hnone]
        exact ⟨(other, item) :: given, rfl⟩
      · rw [if_neg hknown]
        exact ⟨given, rfl⟩

/-- The fields that an object gives are what stands under their names. -/
theorem Node.fields?_object (h : IsPlain names members) :
    ∃ fields, Node.fields? names (.object members) = some fields ∧
      ∀ name ∈ names, fields.find? name = (under name members).head? := by
  obtain ⟨given, hgiven⟩ := Fields.ofMembers?_of_isPlain h
  refine ⟨⟨given⟩, by rw [Node.fields?, hgiven, Option.map_some], fun name hname => ?_⟩
  exact Fields.lookup_of_ofMembers? hgiven hname

/-! ### Records that could be read -/

/-- What a text gives for a field of a record, whether it is an object or an array. -/
def Node.given? (names : List String) (name : String) : Node → Option Node
  | .object members => (under name members).head?
  | .array items => items[names.idxOf name]?
  | _ => none

/-- The items of an array stand for the names at their places. -/
theorem lookup_zip (items : List Node) (hname : name ∈ names) :
    (names.zip items).lookup name = items[names.idxOf name]? := by
  induction names generalizing items with
  | nil => cases hname
  | cons first rest ih =>
    cases items with
    | nil => rfl
    | cons item items =>
      rw [List.zip_cons_cons]
      by_cases heq : first = name
      · subst heq
        rw [List.lookup_cons_self, List.idxOf_cons_self]
        rfl
      · have hrest : name ∈ rest := (List.mem_cons.mp hname).resolve_left (Ne.symm heq)
        rw [List.lookup_cons, beq_eq_false_iff_ne.mpr (Ne.symm heq), List.idxOf_cons_ne rest heq,
          List.getElem?_cons_succ, ih items hrest]

/-- A record that could be read gives for each field what its text gives for it. -/
theorem Node.find?_of_fields? {node : Node} {fields : Fields}
    (h : node.fields? names = some fields) (hname : name ∈ names) :
    fields.find? name = node.given? names name := by
  cases node with
  | object members =>
    obtain ⟨given, hgiven, rfl⟩ := Option.map_eq_some_iff.mp h
    exact Fields.lookup_of_ofMembers? hgiven hname
  | array items =>
    obtain ⟨_, h⟩ := Option.ite_none_right_eq_some.mp h
    cases h
    exact lookup_zip items hname
  | _ => cases h

/-- A value is read from a node, and is a default if there is no node. -/
structure ReadFrom {β : Type} (read? : Node → Option β) (default : β) (node? : Option Node)
    (value : β) : Prop where
  of_some : ∀ node, node? = some node → read? node = some value
  of_none : node? = none → value = default

/-- A field that may be missing is read from what the text gives for it. -/
theorem readFrom_of_get? {node : Node} {fields : Fields} {read? : Node → Option α}
    {default value : α} (hfields : node.fields? names = some fields)
    (h : fields.get? name read? default = some value) (hname : name ∈ names) :
    ReadFrom read? default (node.given? names name) value := by
  rw [← Node.find?_of_fields? hfields hname]
  rw [Fields.get?] at h
  cases hfind : fields.find? name with
  | none =>
    rw [hfind] at h
    cases h
    exact ⟨nofun, fun _ => rfl⟩
  | some given =>
    rw [hfind] at h
    exact ⟨fun _ hgiven => Option.some.inj hgiven ▸ h, nofun⟩

/-- A field of a record that may be missing itself. -/
theorem ReadFrom.field {β : Type} {record? : Node → Option α} {read? : Node → Option β}
    {absent record : α} {blank : β} {node? : Option Node} {look : Node → Option Node} {f : α → β}
    (h : ReadFrom record? absent node? record)
    (hfield : ∀ node, record? node = some record → ReadFrom read? blank (look node) (f record))
    (habsent : f absent = blank) : ReadFrom read? blank (node?.bind look) (f record) := by
  cases node? with
  | none => exact ⟨nofun, fun _ => h.of_none rfl ▸ habsent⟩
  | some node => exact hfield node (h.of_some node rfl)

/-! ### Fields that may be null -/

/-- What stands under the name of a field, if anything does, is null or can be read. -/
def IsReadable (decode? : Node → Option α) (node? : Option Node) : Prop :=
  ∀ node, node? = some node → node = .null ∨ (decode? node).isSome = true

theorem isSome_get?_nullable (name : String) {decode? : Node → Option α} {fields : Fields} :
    (fields.get? name (Node.nullable? decode?) none).isSome = true ↔
      IsReadable decode? (fields.find? name) := by
  rw [Fields.get?]
  cases fields.find? name with
  | none => exact ⟨fun _ => nofun, fun _ => rfl⟩
  | some node =>
    cases node <;> simp [IsReadable, Node.nullable?]

/-- A field of a record that may be missing or null. -/
theorem ReadFrom.field_of_nullable {β : Type} {record? : Node → Option α} {read? : Node → Option β}
    {absent : α} {given? : Option α} {blank : β} {node? : Option Node}
    {look : Node → Option Node} {f : α → β}
    (h : ReadFrom (Node.nullable? record?) none node? given?)
    (hfield : ∀ node record, record? node = some record →
      ReadFrom read? blank (look node) (f record))
    (habsent : f absent = blank) (hnull : look .null = none) :
    ReadFrom read? blank (node?.bind look) (f (given?.getD absent)) := by
  cases node? with
  | none =>
    obtain rfl := h.of_none rfl
    exact ⟨nofun, fun _ => habsent⟩
  | some node =>
    have hread := h.of_some node rfl
    show ReadFrom read? blank (look node) _
    by_cases hnode : node = .null
    · subst hnode
      cases hread
      exact ⟨fun _ hsome => (nomatch hnull.symm.trans hsome), fun _ => habsent⟩
    · have hread : (record? node).map some = some given? := by
        cases node with
        | null => exact absurd rfl hnode
        | _ => exact hread
      obtain ⟨record, hrecord, rfl⟩ := Option.map_eq_some_iff.mp hread
      exact hfield node record hrecord

end MeshControl.Json
