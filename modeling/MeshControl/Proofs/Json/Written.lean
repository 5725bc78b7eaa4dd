import MeshControl.Proofs.Json.Tokens
import MeshControl.Proofs.Text.Utf8

/-!
# What is written is read back

A value is written in a layout, and reading the text gives the value as it is written (`Value.node`):
the same members in the same order, strings as texts and numbers as the digits that stand for them
(`ofText?_write`).  This holds for each layout, because blanks between parts are skipped.

The three statements on values, items and members are proved together, as they are read together.
Fuel for as many steps as there are characters is enough, because each step takes at least one.
-/

namespace MeshControl.Json

open MeshControl.Text

variable {after : Pieces}

/-! ### The node of a value -/

namespace Value

mutual

/-- The value as it is written. -/
def node : Value → Node
  | .null => .null
  | .bool b => .bool b
  | .number n => .number n.literal
  | .string s => .string (some s)
  | .array items => .array (nodes items)
  | .object members => .object (memberNodes members)

/-- The items of an array as they are written. -/
def nodes : List Value → List Node
  | [] => []
  | v :: rest => node v :: nodes rest

/-- The members of an object as they are written. -/
def memberNodes : List (String × Value) → List (Option String × Node)
  | [] => []
  | (name, v) :: rest => (some name, node v) :: memberNodes rest

end

theorem nodes_eq_map (items : List Value) : nodes items = items.map node := by
  induction items with
  | nil => rfl
  | cons v rest ih => rw [nodes, ih, List.map_cons]

theorem memberNodes_eq_map (members : List (String × Value)) :
    memberNodes members = members.map fun m => (some m.1, node m.2) := by
  induction members with
  | nil => rfl
  | cons m rest ih => rw [memberNodes, ih, List.map_cons]

theorem memberNodes_append (members others : List (String × Value)) :
    memberNodes (members ++ others) = memberNodes members ++ memberNodes others := by
  rw [memberNodes_eq_map, memberNodes_eq_map, memberNodes_eq_map, List.map_append]

end Value

/-! ### Blanks -/

theorem skipBlanks_cons {c : Char} (h : isBlank c = false) (rest : Pieces) :
    skipBlanks (some c :: rest) = some c :: rest := by
  rw [skipBlanks, h, if_neg Bool.false_ne_true]

theorem skipBlanks_append {blanks : List Char} (h : ∀ c ∈ blanks, isBlank c = true) (rest : Pieces) :
    skipBlanks (blanks.map some ++ rest) = skipBlanks rest := by
  induction blanks with
  | nil => rfl
  | cons c more ih =>
    have hmore := ih fun d hd => h d (List.mem_cons_of_mem c hd)
    rw [List.map_cons, List.cons_append, skipBlanks, if_pos (h c List.mem_cons_self), hmore]

/-- Blanks in front of a value are skipped. -/
theorem readNode?_append {blanks : List Char} (h : ∀ c ∈ blanks, isBlank c = true) (fuel : Nat)
    (rest : Pieces) : readNode? fuel (blanks.map some ++ rest) = readNode? fuel rest := by
  cases fuel with
  | zero => rfl
  | succ fuel => rw [readNode?, skipBlanks_append h, ← readNode?]

theorem endsNumber_append {blanks : List Char} (h : ∀ c ∈ blanks, isBlank c = true)
    (hafter : EndsNumber after) : EndsNumber (blanks.map some ++ after) := by
  match blanks with
  | [] => exact hafter
  | c :: more =>
    refine endsNumber_cons ?_
    have hc := h c List.mem_cons_self
    simp only [isBlank, Bool.or_eq_true, decide_eq_true_eq] at hc
    rcases hc with ((rfl | rfl) | rfl) | rfl <;> decide

/-! ### Values -/

section Values

variable {layout : Layout} {level fuel : Nat} {rest : Pieces}

/-- A number begins with a sign or a digit. -/
theorem Literal.exists_text_eq_cons {l : Literal} (hl : l.IsProper) :
    ∃ c more, l.text = c :: more ∧ (c = '-' ∨ ∃ d < 10, c = Nat.digitChar d) := by
  rw [Literal.text]
  cases l.negative with
  | true => exact ⟨'-', _, rfl, .inl rfl⟩
  | false =>
    obtain ⟨d, ds, hwhole⟩ := List.exists_cons_of_ne_nil hl.whole.ne_nil
    have hd : d < 10 := hl.whole.lt d (hwhole ▸ List.mem_cons_self)
    rw [hwhole]
    exact ⟨_, _, rfl, .inr ⟨d, hd, rfl⟩⟩

/-- A value that begins with a sign or a digit is read as a number. -/
theorem readNode?_of_number {l : Literal} (hl : l.IsProper) (hafter : EndsNumber after) :
    readNode? (fuel + 1) (l.text.map some ++ after) = some (.number l, after) := by
  have hread := Literal.readNumber?_text hl hafter
  obtain ⟨c, more, htext, hc⟩ := Literal.exists_text_eq_cons hl
  rw [htext] at hread ⊢
  have hnumber : readNode? (fuel + 1) ((c :: more).map some ++ after) =
      (readNumber? ((c :: more).map some ++ after)).map fun read => (.number read.1, read.2) := by
    rcases hc with rfl | ⟨d, hd, rfl⟩
    · rfl
    · have hdigit : d = 0 ∨ d = 1 ∨ d = 2 ∨ d = 3 ∨ d = 4 ∨ d = 5 ∨ d = 6 ∨ d = 7 ∨ d = 8 ∨ d = 9 := by
        omega
      rcases hdigit with rfl | rfl | rfl | rfl | rfl | rfl | rfl | rfl | rfl | rfl <;> rfl
  rw [hnumber, hread]
  rfl

/-- A value begins with a character that is no blank and closes nothing. -/
theorem exists_chars_eq_cons (layout : Layout) (level : Nat) (v : Value) :
    ∃ c more, v.chars layout level = c :: more ∧ isBlank c = false ∧ c ≠ ']' := by
  match v with
  | .null | .bool true | .bool false | .string s | .array [] | .array (v :: more) | .object []
  | .object ((name, v) :: more) => exact ⟨_, _, rfl, rfl, by decide⟩
  | .number n =>
    obtain ⟨c, more, htext, hc⟩ := Literal.exists_text_eq_cons n.isProper_literal
    have hdigit : ∀ d < 10, isBlank (Nat.digitChar d) = false ∧ Nat.digitChar d ≠ ']' := by decide
    refine ⟨c, more, htext, ?_⟩
    rcases hc with rfl | ⟨d, hd, rfl⟩
    · decide
    · exact hdigit d hd

/-! One step of each reader. -/

theorem readItems?_last {input : Pieces} {item : Node} (hitem : readNode? fuel input = some (item, rest))
    (hrest : skipBlanks rest = some ']' :: after) :
    readItems? (fuel + 1) input = some ([item], after) := by
  rw [readItems?, hitem, Option.bind_eq_bind, Option.bind_some]
  dsimp only
  rw [hrest]
  rfl

theorem readItems?_more {input more : Pieces} {item : Node} {items : List Node}
    (hitem : readNode? fuel input = some (item, rest)) (hrest : skipBlanks rest = some ',' :: more)
    (hmore : readItems? fuel more = some (items, after)) :
    readItems? (fuel + 1) input = some (item :: items, after) := by
  rw [readItems?, hitem, Option.bind_eq_bind, Option.bind_some]
  dsimp only
  rw [hrest]
  simp only [hmore]
  rfl

theorem readName?_stringText {blanks : List Char} (h : ∀ c ∈ blanks, isBlank c = true) (name : String) :
    readName? ((blanks ++ stringText name ++ [':']).map some ++ after) = some (some name, after) := by
  have hname := readString?_stringText name (some ':' :: after)
  have hinput : (blanks ++ stringText name ++ [':']).map some ++ after = blanks.map some ++
      some '"' :: ((name.toList.flatMap stringChar ++ ['"']).map some ++ some ':' :: after) := by
    simp [stringText]
  rw [hinput, readName?, skipBlanks_append h, skipBlanks_cons rfl]
  simp only [hname]
  rfl

theorem readMembers?_last {input middle : Pieces} {name : Option String} {item : Node}
    (hname : readName? input = some (name, middle)) (hitem : readNode? fuel middle = some (item, rest))
    (hrest : skipBlanks rest = some '\x7d' :: after) :
    readMembers? (fuel + 1) input = some ([(name, item)], after) := by
  rw [readMembers?, hname, Option.bind_eq_bind, Option.bind_some]
  dsimp only
  rw [hitem, Option.bind_eq_bind, Option.bind_some]
  dsimp only
  rw [hrest]
  rfl

theorem readMembers?_more {input middle more : Pieces} {name : Option String} {item : Node}
    {members : List (Option String × Node)} (hname : readName? input = some (name, middle))
    (hitem : readNode? fuel middle = some (item, rest)) (hrest : skipBlanks rest = some ',' :: more)
    (hmore : readMembers? fuel more = some (members, after)) :
    readMembers? (fuel + 1) input = some ((name, item) :: members, after) := by
  rw [readMembers?, hname, Option.bind_eq_bind, Option.bind_some]
  dsimp only
  rw [hitem, Option.bind_eq_bind, Option.bind_some]
  dsimp only
  rw [hrest]
  simp only [hmore]
  rfl

end Values

/-! ### All values -/

open Value (chars moreItems moreMembers nodes memberNodes)

variable {layout : Layout} {level : Nat}

/-- What stands behind an item does not continue a number. -/
theorem endsNumber_moreItems (layout : Layout) (level : Nat) (rest : List Value) (after : Pieces)
    {blanks : List Char} (hblanks : ∀ c ∈ blanks, isBlank c = true) :
    EndsNumber ((moreItems layout level rest ++ (blanks ++ [']'])).map some ++ after) := by
  match rest with
  | [] =>
    rw [moreItems, List.nil_append, List.map_append, List.append_assoc]
    exact endsNumber_append hblanks (endsNumber_cons (by decide))
  | v :: rest => exact endsNumber_cons (by decide)

/-- What stands behind a member does not continue a number. -/
theorem endsNumber_moreMembers (layout : Layout) (level : Nat) (rest : List (String × Value))
    (after : Pieces) {blanks : List Char}
    (hblanks : ∀ c ∈ blanks, isBlank c = true) :
    EndsNumber ((moreMembers layout level rest ++ (blanks ++ ['\x7d'])).map some ++ after) := by
  match rest with
  | [] =>
    rw [moreMembers, List.nil_append, List.map_append, List.append_assoc]
    exact endsNumber_append hblanks (endsNumber_cons (by decide))
  | m :: rest => exact endsNumber_cons (by decide)

theorem skipBlanks_close {blanks : List Char} (hblanks : ∀ c ∈ blanks, isBlank c = true) {c : Char}
    (hc : isBlank c = false) :
    skipBlanks ((blanks ++ [c]).map some ++ after) = some c :: after := by
  rw [List.map_append, List.append_assoc, skipBlanks_append hblanks]
  exact skipBlanks_cons hc after

/-- A value is read back wherever it stands. -/
def Value.IsReadBack (v : Value) : Prop :=
  ∀ (layout : Layout) (level fuel : Nat) (after : Pieces), (chars layout level v).length ≤ fuel →
    EndsNumber after → readNode? fuel ((chars layout level v).map some ++ after) = some (v.node, after)

/-- Items that are read back one by one are read back up to the bracket behind them. -/
theorem readItems?_chars (layout : Layout) (level : Nat) {v : Value} {rest : List Value}
    (hv : v.IsReadBack) (hrest : ∀ w ∈ rest, w.IsReadBack) (after : Pieces) {blanks : List Char}
    (hblanks : ∀ c ∈ blanks, isBlank c = true)
    (hfuel : (chars layout level v ++ moreItems layout level rest).length < fuel) :
    readItems? fuel ((layout.line level ++ chars layout level v ++ moreItems layout level rest
      ++ blanks ++ [']']).map some ++ after) = some (v.node :: nodes rest, after) := by
  induction rest generalizing v fuel with
  | nil =>
    obtain ⟨fuel, rfl⟩ : ∃ n, fuel = n + 1 := ⟨fuel - 1, by omega⟩
    rw [List.length_append] at hfuel
    have hitem := hv layout level fuel _ (by omega)
      (endsNumber_moreItems layout level [] after hblanks)
    rw [← readNode?_append (layout.isBlank_of_mem_line level)] at hitem
    refine readItems?_last ?_ (skipBlanks_close hblanks rfl)
    simpa only [moreItems, List.map_append, List.map_nil, List.nil_append, List.append_nil,
      List.append_assoc] using hitem
  | cons w rest ih =>
    obtain ⟨fuel, rfl⟩ : ∃ n, fuel = n + 1 := ⟨fuel - 1, by omega⟩
    rw [moreItems, List.length_append, List.length_cons, List.append_assoc, List.length_append] at hfuel
    have hitem := hv layout level fuel _ (by omega)
      (endsNumber_moreItems layout level (w :: rest) after hblanks)
    rw [← readNode?_append (layout.isBlank_of_mem_line level)] at hitem
    have hw : w.IsReadBack := hrest w List.mem_cons_self
    have htail : ∀ x ∈ rest, x.IsReadBack := fun x hx => hrest x (List.mem_cons_of_mem w hx)
    refine readItems?_more ?_ (skipBlanks_cons rfl _) (ih hw htail (by omega))
    simpa only [moreItems, List.map_append, List.map_cons, List.append_assoc, List.cons_append]
      using hitem

/-- Members that are read back one by one are read back up to the brace behind them. -/
theorem readMembers?_chars (layout : Layout) (level : Nat) (name : String) {v : Value}
    {rest : List (String × Value)} (hv : v.IsReadBack) (hrest : ∀ m ∈ rest, m.2.IsReadBack)
    (after : Pieces) {blanks : List Char} (hblanks : ∀ c ∈ blanks, isBlank c = true)
    (hfuel : (chars layout level v ++ moreMembers layout level rest).length < fuel) :
    readMembers? fuel ((layout.line level ++ stringText name ++ ':' :: layout.gap
      ++ chars layout level v ++ moreMembers layout level rest ++ blanks ++ ['\x7d']).map some
      ++ after) = some ((some name, v.node) :: memberNodes rest, after) := by
  have hname : ∀ (name : String) (more : Pieces),
      readName? ((layout.line level ++ stringText name ++ [':']).map some ++ more) =
        some (some name, more) :=
    fun name _ => readName?_stringText (layout.isBlank_of_mem_line level) name
  induction rest generalizing name v fuel with
  | nil =>
    obtain ⟨fuel, rfl⟩ : ∃ n, fuel = n + 1 := ⟨fuel - 1, by omega⟩
    rw [List.length_append] at hfuel
    have hitem := hv layout level fuel _ (by omega)
      (endsNumber_moreMembers layout level [] after hblanks)
    rw [← readNode?_append layout.isBlank_of_mem_gap] at hitem
    refine readMembers?_last (Eq.trans ?_ (hname name _)) hitem ?_
    · simp only [List.map_append, List.map_cons, List.map_nil, List.append_assoc, List.cons_append,
        List.nil_append]
    · exact skipBlanks_close hblanks rfl
  | cons m rest ih =>
    obtain ⟨other, w⟩ := m
    obtain ⟨fuel, rfl⟩ : ∃ n, fuel = n + 1 := ⟨fuel - 1, by omega⟩
    simp only [moreMembers, List.length_append, List.length_cons] at hfuel
    have hitem := hv layout level fuel _ (by omega)
      (endsNumber_moreMembers layout level ((other, w) :: rest) after hblanks)
    rw [← readNode?_append layout.isBlank_of_mem_gap] at hitem
    have hw : w.IsReadBack := hrest (other, w) List.mem_cons_self
    have htail : ∀ x ∈ rest, x.2.IsReadBack := fun x hx =>
      hrest x (List.mem_cons_of_mem (other, w) hx)
    have hlength : (chars layout level w ++ moreMembers layout level rest).length < fuel := by
      rw [List.length_append]
      omega
    refine readMembers?_more (Eq.trans ?_ (hname name _)) hitem (skipBlanks_cons rfl _)
      (Eq.trans ?_ (ih other hw htail hlength))
    · simp only [List.map_append, List.map_cons, List.map_nil, List.append_assoc, List.cons_append,
        List.nil_append]
    · simp [List.append_assoc]

/-- An array that does not close at once is read item by item. -/
theorem readNode?_items {input : Pieces} {items : List Node} {c : Char}
    (hfront : ∃ more, skipBlanks input = some c :: more) (hc : c ≠ ']')
    (h : readItems? fuel input = some (items, after)) :
    readNode? (fuel + 1) (some '[' :: input) = some (.array items, after) := by
  have hinput : skipBlanks (some '[' :: input) = some '[' :: input := skipBlanks_cons rfl input
  obtain ⟨more, hfront⟩ := hfront
  rw [readNode?, hinput]
  simp only [hfront]
  split
  · next heq => exact absurd (Option.some.inj (List.cons.inj heq).1) hc
  · rw [h]
    rfl

/-- An object that does not close at once is read member by member. -/
theorem readNode?_members {input : Pieces} {members : List (Option String × Node)} {c : Char}
    (hfront : ∃ more, skipBlanks input = some c :: more) (hc : c ≠ '\x7d')
    (h : readMembers? fuel input = some (members, after)) :
    readNode? (fuel + 1) (some '\x7b' :: input) = some (.object members, after) := by
  have hinput : skipBlanks (some '\x7b' :: input) = some '\x7b' :: input := skipBlanks_cons rfl input
  obtain ⟨more, hfront⟩ := hfront
  rw [readNode?, hinput]
  simp only [hfront]
  split
  · next heq => exact absurd (Option.some.inj (List.cons.inj heq).1) hc
  · rw [h]
    rfl

/-- Fuel is never used up at once. -/
theorem Value.IsReadBack.of_succ {v : Value}
    (h : ∀ (layout : Layout) (level fuel : Nat) (after : Pieces),
      (chars layout level v).length ≤ fuel + 1 → EndsNumber after →
      readNode? (fuel + 1) ((chars layout level v).map some ++ after) = some (v.node, after)) :
    v.IsReadBack := by
  intro layout level fuel after hfuel hafter
  obtain ⟨c, more, hchars, -⟩ := exists_chars_eq_cons layout level v
  have hlength : (chars layout level v).length = more.length + 1 := congrArg List.length hchars
  obtain ⟨n, rfl⟩ : ∃ n, fuel = n + 1 := ⟨fuel - 1, by omega⟩
  exact h layout level n after hfuel hafter

theorem isReadBack_array {v : Value} {rest : List Value} (hv : v.IsReadBack)
    (hrest : ∀ w ∈ rest, w.IsReadBack) : (Value.array (v :: rest)).IsReadBack := by
  refine .of_succ fun layout level fuel after hfuel _ => ?_
  have hblanks := layout.isBlank_of_mem_line
  simp only [chars, List.length_cons, List.length_append] at hfuel
  have hlength : (chars layout (level + 1) v ++ moreItems layout (level + 1) rest).length < fuel := by
    rw [List.length_append]
    omega
  have hitems := readItems?_chars layout (level + 1) hv hrest after (hblanks level) hlength
  -- the first item stands in front of the bracket
  obtain ⟨c, more, hchars, hblank, hc⟩ := exists_chars_eq_cons layout (level + 1) v
  refine readNode?_items ?_ hc hitems
  simp only [List.append_eq, List.map_append, List.append_assoc]
  rw [skipBlanks_append (hblanks (level + 1)), hchars]
  exact ⟨_, skipBlanks_cons hblank _⟩

theorem isReadBack_object {name : String} {v : Value} {rest : List (String × Value)}
    (hv : v.IsReadBack) (hrest : ∀ m ∈ rest, m.2.IsReadBack) :
    (Value.object ((name, v) :: rest)).IsReadBack := by
  refine .of_succ fun layout level fuel after hfuel _ => ?_
  have hblanks := layout.isBlank_of_mem_line
  simp only [chars, List.length_cons, List.length_append] at hfuel
  have hlength : (chars layout (level + 1) v ++ moreMembers layout (level + 1) rest).length < fuel := by
    rw [List.length_append]
    omega
  have hmembers := readMembers?_chars layout (level + 1) name hv hrest after (hblanks level) hlength
  refine readNode?_members (c := '"') ?_ (by decide) hmembers
  simp only [List.append_eq, List.map_append, List.append_assoc]
  rw [skipBlanks_append (hblanks (level + 1))]
  exact ⟨_, skipBlanks_cons rfl _⟩

theorem isReadBack_string (s : String) : (Value.string s).IsReadBack := by
  refine .of_succ fun layout level fuel after _ _ => ?_
  show (readString? ((s.toList.flatMap stringChar ++ ['"']).map some ++ after)).map _ = _
  rw [readString?_stringText]
  rfl

/-- Every value is read back. -/
theorem isReadBack : ∀ v : Value, v.IsReadBack
  | .null | .bool true | .bool false | .array [] | .object [] => .of_succ fun _ _ _ _ _ _ => rfl
  | .number n => .of_succ fun _ _ _ _ _ hafter => readNode?_of_number n.isProper_literal hafter
  | .string s => isReadBack_string s
  | .array (v :: rest) => isReadBack_array (isReadBack v) fun w _ => isReadBack w
  | .object ((_, v) :: rest) => isReadBack_object (isReadBack v) fun m _ => isReadBack m.2
termination_by v => sizeOf v
decreasing_by
  · simp
    omega
  · next h =>
    have := List.sizeOf_lt_of_mem h
    simp
    omega
  · simp
    omega
  · next h =>
    have := List.sizeOf_lt_of_mem h
    have : sizeOf m = 1 + sizeOf m.1 + sizeOf m.2 := rfl
    simp
    omega

namespace Node

/-- **What is written is read back**, in every layout. -/
theorem ofText?_write (layout : Layout) (v : Value) : ofText? (v.write layout) = some v.node := by
  have hread := isReadBack v layout 0 (2 * ((chars layout 0 v).map some).length + 2) []
    (by rw [List.length_map]; omega) endsNumber_nil
  rw [List.append_nil] at hread
  rw [ofText?, Value.write, String.toList_ofList, read?, hread]
  rfl

/-- The bytes of a text are read as the text. -/
theorem ofBytes?_encode (s : String) : ofBytes? (Utf8.encode s) = ofText? s := by
  rw [ofBytes?, ofText?, Utf8.pieces_encode]

end Node

end MeshControl.Json
