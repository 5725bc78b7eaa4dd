import Mathlib.Tactic.SplitIfs
import MeshControl.Proofs.Json.Faithful

/-!
# Members in the order of their names

Putting the members of an object into the order of their names loses none if the names are distinct
(`Value.perm_sortMembers`), so a reader that is faithful to a record as it is declared is faithful to
it in that order (`Faithful.sorted`).
-/

namespace MeshControl.Json

namespace Value

variable {name : String} {v : Value} {members : List (String × Value)}

theorem perm_insertMember (h : name ∉ members.map Prod.fst) :
    (insertMember name v members).Perm ((name, v) :: members) := by
  induction members with
  | nil => exact .refl _
  | cons m rest ih =>
    obtain ⟨other, w⟩ := m
    rw [List.map_cons, List.mem_cons, not_or] at h
    rw [insertMember]
    split_ifs with hlt heq
    · exact .refl _
    · exact absurd heq h.1
    · exact ((ih h.2).cons (other, w)).trans (.swap (name, v) (other, w) rest)

theorem perm_foldl_insertMember (before : List (String × Value))
    (h : ((before ++ members).map Prod.fst).Nodup) :
    (members.foldl (fun sorted (name, v) => insertMember name v sorted) before).Perm
      (before ++ members) := by
  induction members generalizing before with
  | nil =>
    rw [List.append_nil]
    exact .refl _
  | cons m rest ih =>
    obtain ⟨name, v⟩ := m
    have hmiddle : (before ++ (name, v) :: rest).Perm ((name, v) :: before ++ rest) :=
      List.perm_middle
    have hnodup := (hmiddle.map Prod.fst).nodup_iff.mp h
    rw [List.cons_append, List.map_cons, List.nodup_cons, List.map_append, List.mem_append,
      not_or] at hnodup
    have hinsert := perm_insertMember (v := v) hnodup.1.1
    have hbefore : (insertMember name v before ++ rest).Perm (before ++ (name, v) :: rest) :=
      (hinsert.append_right rest).trans hmiddle.symm
    exact (ih _ ((hbefore.map Prod.fst).nodup_iff.mpr h)).trans hbefore

/-- Putting members into the order of their names loses none of distinct names. -/
theorem perm_sortMembers (h : (members.map Prod.fst).Nodup) : (sortMembers members).Perm members :=
  by
  have hperm := perm_foldl_insertMember [] h
  rwa [List.nil_append] at hperm

theorem sortedMembers_eq_self (h : ∀ m ∈ members, m.2.sorted = m.2) : sortedMembers members = members := by
  induction members with
  | nil => rfl
  | cons m rest ih =>
    obtain ⟨name, v⟩ := m
    rw [List.forall_mem_cons] at h
    rw [sortedMembers, h.1, ih h.2]

theorem sorted_strings (texts : List String) : (strings texts).sorted = strings texts := by
  have hitems : ∀ texts : List String, sortedItems (texts.map Value.string) = texts.map .string := by
    intro texts
    induction texts with
    | nil => rfl
    | cons s rest ih =>
      rw [List.map_cons, sortedItems, ih]
      rfl
  rw [strings, sorted, hitems]

end Value

/-- Under the name of a field stands the same in either order. -/
theorem under_sorted {rules : List Rule} {members : List (String × Value)}
    (hnames : (members.map Prod.fst).Nodup)
    (hrefl : RecordOf rules (Value.object members).node (Value.object members).node) :
    ∀ rule ∈ rules, under rule.name (Value.memberNodes (Value.sortMembers members)) =
      under rule.name (Value.memberNodes members) := by
  obtain ⟨-, hself⟩ := hrefl
  intro rule hrule
  refine under_eq_of_perm ?_ (hself rule hrule).length_le
  rw [Value.memberNodes_eq_map, Value.memberNodes_eq_map]
  exact (Value.perm_sortMembers hnames).map _

/-- A record in the order of its names is written anew as the record itself is. -/
theorem recordOf_sorted_iff {rules : List Rule} {members : List (String × Value)} {node : Node}
    (hnames : (members.map Prod.fst).Nodup) (hvalues : ∀ m ∈ members, m.2.sorted = m.2)
    (hrefl : RecordOf rules (Value.object members).node (Value.object members).node) :
    RecordOf rules (Value.object members).sorted.node node ↔
      RecordOf rules (Value.object members).node node := by
  have hunder := under_sorted hnames hrefl
  rw [Value.sorted, Value.sortedMembers_eq_self hvalues]
  constructor
  · rintro ⟨isText, hadmits⟩
    exact .object isText fun rule hrule => hunder rule hrule ▸ hadmits rule hrule
  · rintro ⟨isText, hadmits⟩
    exact .object isText fun rule hrule => (hunder rule hrule).symm ▸ hadmits rule hrule

/-- A reader that is faithful to a record is faithful to it in the order of its names. -/
theorem Faithful.sorted {α : Type} {rules : List Rule} {members : α → List (String × Value)}
    {decode? : Node → Option α}
    (h : Faithful (fun x => (Value.object (members x)).node) (RecordOf rules) decode?)
    (hnames : ∀ x, ((members x).map Prod.fst).Nodup)
    (hvalues : ∀ x, ∀ m ∈ members x, m.2.sorted = m.2) :
    Faithful (fun x => (Value.object (members x)).sorted.node) (RecordOf rules) decode? where
  refl x := by
    have hrefl := h.refl x
    refine (recordOf_sorted_iff (hnames x) (hvalues x) hrefl).mpr ?_
    rw [Value.sorted, Value.sortedMembers_eq_self (hvalues x)]
    refine RecordOf.of_perm hrefl ?_
    rw [Value.memberNodes_eq_map, Value.memberNodes_eq_map]
    exact (Value.perm_sortMembers (hnames x)).map _
  reads x node hnode :=
    h.reads x node ((recordOf_sorted_iff (hnames x) (hvalues x) (h.refl x)).mp hnode)

end MeshControl.Json
