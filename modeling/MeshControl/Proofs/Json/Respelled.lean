import Mathlib.Data.List.Nodup
import MeshControl.Proofs.Json.Fields

/-!
# Records written anew

The same record can be written in many ways: with its fields in another order, without fields that
hold their default, and with members that nobody asks for.  `RecordOf` says so by what stands under
the names of the fields, so that order and unknown members do not matter; what may stand there is a
rule for each field, and rules nest as records do.  Members of other names may be any; besides, the
members may be put into another order (`RecordOf.of_perm`), and one that holds its default may be left
out (`RecordOf.leaveOut`).
-/

namespace MeshControl.Json

variable {members others : List (Option String × Node)} {name : String}

/-! ### What stands under a name -/

theorem under_append : under name (members ++ others) = under name members ++ under name others := by
  rw [under, under, under, List.filter_append, List.map_append]

theorem under_perm (name : String) (h : members.Perm others) :
    (under name members).Perm (under name others) :=
  (h.filter _).map _

theorem under_eq_of_perm (h : members.Perm others) (hlength : (under name others).length ≤ 1) :
    under name members = under name others := by
  have hperm := under_perm name h
  match heq : under name others, hlength with
  | [], _ =>
    rw [heq] at hperm
    exact hperm.eq_nil
  | [item], _ =>
    rw [heq] at hperm
    exact List.perm_singleton.mp hperm

/-- Nothing stands under a name among members of other names. -/
theorem under_eq_nil (h : ∀ m ∈ members, m.1 ≠ some name) : under name members = [] := by
  rw [under, List.filter_eq_nil_iff.mpr (by simpa using h), List.map_nil]

/-! ### Rules -/

/-- How a field of a record may be written anew. -/
structure Rule where
  name : String
  respelled : Node → Node → Prop
  /-- What is written for the value of a field that is missing, if it may be. -/
  default? : Option Node

/-- What may stand under the name of a field in place of what stood there. -/
inductive Rule.Admits (rule : Rule) : List Node → List Node → Prop
  | absent : rule.Admits [] []
  | keep {item item' : Node} : rule.respelled item item' → rule.Admits [item] [item']
  | leaveOut {item : Node} : rule.default? = some item → rule.Admits [item] []

theorem Rule.Admits.length_le {rule : Rule} {old new : List Node} (h : rule.Admits old new) :
    new.length ≤ 1 := by
  match h with
  | .absent | .keep _ | .leaveOut _ => simp

/-- A record written anew: under the name of each field stands what its rule admits, all other members
may be any, and the names of all members are texts. -/
inductive RecordOf (rules : List Rule) : Node → Node → Prop
  | object {written members : List (Option String × Node)} :
    (∀ m ∈ members, m.1.isSome = true) →
    (∀ rule ∈ rules, rule.Admits (under rule.name written) (under rule.name members)) →
    RecordOf rules (.object written) (.object members)

namespace RecordOf

variable {rules : List Rule} {written : List (Option String × Node)} {node : Node}

/-- The members may stand in any order. -/
theorem of_perm (h : RecordOf rules node (.object members)) (hperm : others.Perm members) :
    RecordOf rules node (.object others) := by
  obtain ⟨isText, hadmits⟩ := h
  refine .object (fun m hm => isText m (hperm.subset hm)) fun rule hrule => ?_
  rw [under_eq_of_perm hperm (hadmits rule hrule).length_le]
  exact hadmits rule hrule

/-- A field that holds its default may be left out. -/
theorem leaveOut (h : RecordOf rules (.object written) (.object members))
    (hnames : (rules.map Rule.name).Nodup) {rule : Rule} (hrule : rule ∈ rules) {item : Node}
    (hwritten : under rule.name written = [item]) (hdefault : rule.default? = some item) :
    RecordOf rules (.object written) (.object (members.filter fun m => m.1 ≠ some rule.name)) := by
  obtain ⟨isText, hadmits⟩ := h
  refine .object (fun m hm => isText m (List.mem_filter.mp hm).1) fun other hother => ?_
  by_cases heq : other.name = rule.name
  · obtain rfl : other = rule := List.inj_on_of_nodup_map hnames hother hrule heq
    have hnil : under other.name (members.filter fun m => m.1 ≠ some other.name) = [] :=
      under_eq_nil fun m hm => by simpa using (List.mem_filter.mp hm).2
    rw [hwritten, hnil]
    exact .leaveOut hdefault
  · have hsame : under other.name (members.filter fun m => m.1 ≠ some rule.name) =
        under other.name members := by
      rw [under, under, List.filter_filter]
      congr 1
      refine List.filter_congr fun m _ => ?_
      by_cases hm : m.1 = some other.name
      · simp [hm, heq]
      · simp [hm]
    rw [hsame]
    exact hadmits other hother

/-- A record as it is written is one way of writing it. -/
theorem refl (isText : ∀ m ∈ written, m.1.isSome = true)
    (h : ∀ rule ∈ rules, rule.Admits (under rule.name written) (under rule.name written)) :
    RecordOf rules (.object written) (.object written) :=
  .object isText h

/-- The fields that a reader finds in a record written anew. -/
theorem fields? (h : RecordOf rules (.object written) node) :
    ∃ fields, node.fields? (rules.map Rule.name) = some fields ∧
      ∀ rule ∈ rules, rule.Admits (under rule.name written) (fields.find? rule.name).toList := by
  obtain ⟨isText, hadmits⟩ := h
  rename_i members
  have hplain : IsPlain (rules.map Rule.name) members := by
    refine ⟨isText, fun name hname => ?_⟩
    obtain ⟨rule, hrule, rfl⟩ := List.mem_map.mp hname
    exact (hadmits rule hrule).length_le
  obtain ⟨fields, hfields, hfind⟩ := Node.fields?_object hplain
  refine ⟨fields, hfields, fun rule hrule => ?_⟩
  have hadmitted := hadmits rule hrule
  rw [hfind rule.name (List.mem_map_of_mem hrule)]
  match heq : under rule.name members, hadmitted.length_le with
  | [], _ => rwa [heq] at hadmitted
  | [item], _ => rwa [heq] at hadmitted

end RecordOf

end MeshControl.Json
