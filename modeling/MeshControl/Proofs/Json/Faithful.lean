import Mathlib.Data.List.Forall2
import Mathlib.Tactic.SplitIfs
import MeshControl.Proofs.Json.Respelled
import MeshControl.Proofs.Json.Written

/-!
# Faithful readers

A reader is faithful to a writer if it reads every respelling of what is written for a value as that
value (`Faithful`).  Faithful readers of single values make up faithful readers of lists and fields, so
that a reader of records is faithful field by field.

An integer below `2 ^ 64` is read digit by digit and never becomes a floating-point number
(`Literal.number?_natural`).
-/

namespace MeshControl.Json

open MeshControl.Text

variable {α : Type}

/-! ### Members as they are written -/

/-- Removed names have nothing under them, and the others what they had. -/
theorem under_filter (name : String) (removed : List String) (members : List (String × Value)) :
    under name (Value.memberNodes (members.filter fun m => m.1 ∉ removed)) =
      if name ∈ removed then [] else under name (Value.memberNodes members) := by
  induction members with
  | nil => exact (ite_self _).symm
  | cons m rest ih =>
    obtain ⟨other, v⟩ := m
    rw [Value.memberNodes]
    by_cases hother : other ∈ removed
    · have hcons : under name ((some other, v.node) :: Value.memberNodes rest) =
          if other = name then v.node :: under name (Value.memberNodes rest)
          else under name (Value.memberNodes rest) := by
        split_ifs with heq
        · rw [heq, under_cons_self]
        · exact under_cons_of_ne heq v.node
      rw [List.filter_cons_of_neg (by simpa using hother), ih, hcons]
      split_ifs with hname heq
      · rfl
      · exact absurd (heq ▸ hother) hname
      · rfl
    · rw [List.filter_cons_of_pos (by simpa using hother), Value.memberNodes]
      by_cases heq : other = name
      · subst heq
        rw [under_cons_self, under_cons_self, ih, if_neg hother, if_neg hother]
      · rw [under_cons_of_ne heq, under_cons_of_ne heq, ih]

theorem length_under_le {members : List (String × Value)} (h : (members.map Prod.fst).Nodup)
    (name : String) : (under name (Value.memberNodes members)).length ≤ 1 := by
  induction members with
  | nil => exact Nat.zero_le 1
  | cons m rest ih =>
    obtain ⟨other, v⟩ := m
    rw [List.map_cons, List.nodup_cons] at h
    rw [Value.memberNodes]
    by_cases heq : other = name
    · have hnil : under name (Value.memberNodes rest) = [] := by
        refine under_eq_nil fun m hm hname => h.1 ?_
        rw [Value.memberNodes_eq_map] at hm
        obtain ⟨w, hw, rfl⟩ := List.mem_map.mp hm
        have hsame : w.1 = other := (Option.some.inj hname).trans heq.symm
        show other ∈ rest.map Prod.fst
        rw [← hsame]
        exact List.mem_map_of_mem hw
      rw [heq, under_cons_self, hnil]
      exact Nat.le_refl 1
    · rw [under_cons_of_ne heq]
      exact ih h.2

/-! ### Faithful readers -/

/-- A reader that reads every respelling of what is written for a value as that value. -/
structure Faithful (write : α → Node) (respelled : Node → Node → Prop) (decode? : Node → Option α) :
    Prop where
  refl : ∀ x, respelled (write x) (write x)
  reads : ∀ x node, respelled (write x) node → decode? node = some x

variable {write : α → Node} {respelled : Node → Node → Prop} {decode? : Node → Option α} {x y : α}

namespace Faithful

theorem read_written (h : Faithful write respelled decode?) (x : α) : decode? (write x) = some x :=
  h.reads x (write x) (h.refl x)

/-- What is written tells values apart. -/
theorem injective (h : Faithful write respelled decode?) (heq : write x = write y) : x = y := by
  have hx := h.read_written x
  rw [heq, h.read_written y] at hx
  exact (Option.some.inj hx).symm

/-- A reader of what is written in one way only. -/
theorem of_eq (h : ∀ x, decode? (write x) = some x) : Faithful write Eq decode? where
  refl _ := rfl
  reads x _ heq := heq ▸ h x

/-- A field is read as the value that was written, also if it was left out. -/
theorem get?_eq (rule : Rule) {fields : Fields} {default : α}
    (h : Faithful write rule.respelled decode?) (hdefault : rule.default? = some (write default))
    (hadmits : rule.Admits [write x] (fields.find? rule.name).toList) :
    fields.get? rule.name decode? default = some x := by
  rw [Fields.get?]
  cases hfind : fields.find? rule.name with
  | none =>
    rw [hfind] at hadmits
    cases hadmits with
    | leaveOut hleft =>
      have heq : write default = write x := Option.some.inj (hdefault.symm.trans hleft)
      rw [h.injective heq]
  | some node =>
    rw [hfind] at hadmits
    cases hadmits with
    | keep hrespelled => exact h.reads x node hrespelled

/-- A field that is not written for its default is read as the value all the same. -/
theorem get?_eq_of_omitted (rule : Rule) {fields : Fields} {default : α} {isDefault : Prop}
    [Decidable isDefault] (h : Faithful write rule.respelled decode?)
    (hrule : rule.default? = some (write default)) (hdefault : isDefault → default = x)
    (hadmits : rule.Admits (if isDefault then [] else [write x]) (fields.find? rule.name).toList) :
    fields.get? rule.name decode? default = some x := by
  split at hadmits
  · next hx =>
    rw [Fields.get?]
    cases hfind : fields.find? rule.name with
    | none => rw [hdefault hx]
    | some node =>
      rw [hfind] at hadmits
      cases hadmits
  · exact h.get?_eq rule hrule hadmits

/-- A field that has to be there is read as the value that was written. -/
theorem require?_eq (rule : Rule) {fields : Fields} (h : Faithful write rule.respelled decode?)
    (hdefault : rule.default? = none)
    (hadmits : rule.Admits [write x] (fields.find? rule.name).toList) :
    fields.require? rule.name decode? = some x := by
  rw [Fields.require?]
  match hfind : fields.find? rule.name with
  | none =>
    rw [hfind] at hadmits
    cases hadmits with
    | leaveOut hleft => rw [hdefault] at hleft; cases hleft
  | some node =>
    rw [hfind] at hadmits
    cases hadmits with
    | keep hrespelled => exact h.reads x node hrespelled

/-- A reader of records is faithful if it reads what its fields were written for. -/
theorem record {rules : List Rule} {members : α → List (String × Value)}
    {readFields? : Fields → Option α}
    (hrefl : ∀ x, ∀ rule ∈ rules, rule.Admits (under rule.name (Value.memberNodes (members x)))
      (under rule.name (Value.memberNodes (members x))))
    (hreads : ∀ x fields, (∀ rule ∈ rules, rule.Admits
      (under rule.name (Value.memberNodes (members x))) (fields.find? rule.name).toList) →
      readFields? fields = some x) :
    Faithful (fun x => (Value.object (members x)).node) (RecordOf rules)
      (fun node => (node.fields? (rules.map Rule.name)).bind readFields?) where
  refl x := by
    refine RecordOf.refl (fun m hm => ?_) (hrefl x)
    rw [Value.memberNodes_eq_map] at hm
    obtain ⟨_, -, rfl⟩ := List.mem_map.mp hm
    rfl
  reads x node h := by
    obtain ⟨fields, hfields, hadmits⟩ := h.fields?
    rw [hfields, Option.bind_some, hreads x fields hadmits]

end Faithful

/-! ### Lists -/

/-- A list written anew item by item. -/
inductive ListOf (respelled : Node → Node → Prop) : Node → Node → Prop
  | array {items items' : List Node} : List.Forall₂ respelled items items' →
    ListOf respelled (.array items) (.array items')

theorem Faithful.list (h : Faithful write respelled decode?) :
    Faithful (fun xs : List α => .array (xs.map write)) (ListOf respelled) (Node.list? decode?) where
  refl xs := .array (List.forall₂_same.mpr fun item hitem => by
    obtain ⟨x, -, rfl⟩ := List.mem_map.mp hitem
    exact h.refl x)
  reads xs node hnode := by
    obtain ⟨hitems⟩ := hnode
    rename_i items
    rw [Node.list?]
    induction xs generalizing items with
    | nil =>
      cases hitems
      rfl
    | cons x rest ih =>
      cases hitems with
      | cons hx hrest =>
        rw [List.mapM_cons, h.reads x _ hx, ih hrest]
        rfl

/-! ### Single values -/

namespace Literal

theorem le_foldl (start : Nat) (ds : List Nat) :
    start ≤ ds.foldl (fun n d => 10 * n + d) start := by
  induction ds generalizing start with
  | nil => exact Nat.le_refl start
  | cons d rest ih =>
    have hrest := ih (10 * start + d)
    rw [List.foldl_cons]
    omega

/-- Digits are appended as long as the number that they make up fits. -/
theorem fill_eq {start : Nat} {ds : List Nat}
    (h : ds.foldl (fun n d => 10 * n + d) start < UInt64.size) :
    fill start ds = (ds.foldl (fun n d => 10 * n + d) start, []) := by
  induction ds generalizing start with
  | nil => rfl
  | cons d rest ih =>
    rw [List.foldl_cons] at h ⊢
    have hle := le_foldl (10 * start + d) rest
    rw [fill, if_pos (by omega), ih h]

theorem number?_natural {n : Nat} (h : n < UInt64.size) :
    (Number.natural n).literal.number? = some (.natural n) := by
  have hfill : fill 0 (digits n) = (n, []) := by
    have hfoldl := foldl_digits (n := n)
    rw [fill_eq (by rwa [hfoldl]), hfoldl]
  rw [number?, Number.literal]
  simp only [hfill]
  rfl

end Literal

theorem Node.below?_natural {n bound : Nat} (h : n < bound) (hbound : bound ≤ UInt64.size) :
    Node.below? bound (.number (Number.natural n).literal) = some n := by
  rw [below?, Literal.number?_natural (by omega)]
  simp only [if_pos h]

namespace Faithful

theorem text : Faithful (fun s => .string (some s)) Eq Node.text? :=
  .of_eq fun _ => rfl

theorem bool : Faithful .bool Eq Node.bool? :=
  .of_eq fun _ => rfl

/-- An integer type that fits 64 bits. -/
theorem below {toNat : α → Nat} {ofNat : Nat → α} {bound : Nat} (hbound : bound ≤ UInt64.size)
    (hlt : ∀ x, toNat x < bound) (hofNat : ∀ x, ofNat (toNat x) = x) :
    Faithful (fun x => (Value.nat (toNat x)).node) Eq (fun node => (node.below? bound).map ofNat) := by
  refine .of_eq fun x => ?_
  rw [Value.nat, Value.node, Node.below?_natural (hlt x) hbound, Option.map_some, hofNat]

theorem texts : Faithful (fun texts => (Value.strings texts).node) Eq Node.texts? := by
  refine .of_eq fun texts => ?_
  have hread := text.list.read_written texts
  rw [Value.strings, Value.node, Value.nodes_eq_map, List.map_map]
  exact hread

end Faithful

/-! ### Fields of single values -/

namespace Rule

/-- A field that is written in one way only and stands for a default where it is missing. -/
def plain (name : String) (default : Node) : Rule :=
  ⟨name, Eq, some default⟩

/-- A text, empty if it is missing. -/
def text (name : String) : Rule :=
  .plain name (.string (some ""))

/-- A truth value, false if it is missing. -/
def bool (name : String) : Rule :=
  .plain name (.bool false)

/-- A list of texts, empty if it is missing. -/
def texts (name : String) : Rule :=
  .plain name (.array [])

/-- A field that is written in one way only and has to be there. -/
def required (name : String) : Rule :=
  ⟨name, Eq, none⟩

namespace Admits

variable {name : String} {fields : Fields}

theorem text {s : String} (h : (Rule.text name).Admits [.string (some s)] (fields.find? name).toList) :
    fields.text? name = some s :=
  Faithful.text.get?_eq (.text name) rfl h

theorem bool {b : Bool} (h : (Rule.bool name).Admits [.bool b] (fields.find? name).toList) :
    fields.bool? name = some b :=
  Faithful.bool.get?_eq (.bool name) rfl h

theorem texts {texts : List String}
    (h : (Rule.texts name).Admits [(Value.strings texts).node] (fields.find? name).toList) :
    fields.texts? name = some texts :=
  Faithful.texts.get?_eq (.texts name) rfl h

theorem requiredText {s : String}
    (h : (Rule.required name).Admits [.string (some s)] (fields.find? name).toList) :
    fields.require? name Node.text? = some s :=
  Faithful.text.require?_eq (.required name) rfl h

end Admits

end Rule

end MeshControl.Json
