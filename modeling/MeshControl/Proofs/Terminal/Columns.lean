import Mathlib.Algebra.GroupWithZero.Nat
import Mathlib.Order.Bounds.Basic
import MeshControl.Proofs.Terminal.Escapes

/-!
# The columns of a table

`columnWidths` measures the plain header and every row, and `padded` fills a cell up to the width of
its column; the subtraction there would be cut off at zero if a cell were wider than its column.  No
cell that is laid out is (`Fits`), the header's in bold included, since a style takes no room.

If moreover every text is finished, widths add up along a row, and a cell begins in the same visible
column of every row: behind the columns before it and the two spaces after each of them
(`columnStart`).  The characters that are seen there are those of the cell and the spaces that fill
it up (`StandsAt`).  The cells beyond the header's leave no trace in a table
(`table_map_take`).
-/

namespace MeshControl.Terminal

open MeshControl.Text

variable {header cells : List String} {rows : List (List String)} {row : List String}
variable {cell : String} {widths ws : List Nat} {j w : Nat}

/-! ### The widths of columns -/

@[simp]
theorem length_widen (ws : List Nat) (cells : List String) :
    (widen ws cells).length = ws.length := by
  induction ws generalizing cells with
  | nil => cases cells <;> rfl
  | cons w ws ih =>
    cases cells with
    | nil => rfl
    | cons cell cells => simp [widen, ih]

/-- A row widens each of its columns to the cell in it, if there is one. -/
theorem getElem?_widen (ws : List Nat) (cells : List String) (j : Nat) :
    (widen ws cells)[j]? =
      ws[j]?.map fun w => (cells[j]?.elim w fun cell => max w (visibleWidth cell)) := by
  induction ws generalizing cells j with
  | nil => cases cells <;> rfl
  | cons w ws ih =>
    cases cells with
    | nil =>
      have hrow : widen (w :: ws) [] = w :: ws := rfl
      rw [hrow]
      simp
    | cons cell cells =>
      cases j with
      | zero => simp [widen]
      | succ j => simp [widen, ih]

/-- Only the cells in the columns are measured. -/
theorem widen_take (ws : List Nat) (cells : List String) :
    widen ws (cells.take ws.length) = widen ws cells := by
  induction ws generalizing cells with
  | nil => cases cells <;> rfl
  | cons w ws ih =>
    cases cells with
    | nil => rfl
    | cons cell cells =>
      rw [List.length_cons, List.take_succ_cons, widen, widen, ih]

/-- The invariant of measuring row after row: a column is at least as wide as it was and as each of
its cells, and it is as wide as one of these. -/
theorem exists_getElem?_foldl_widen (rows : List (List String)) (h : ws[j]? = some w) :
    ∃ v, (rows.foldl widen ws)[j]? = some v ∧ w ≤ v ∧
      (∀ row ∈ rows, ∀ cell, row[j]? = some cell → visibleWidth cell ≤ v) ∧
      (v = w ∨ ∃ row ∈ rows, ∃ cell, row[j]? = some cell ∧ visibleWidth cell = v) := by
  induction rows generalizing ws w with
  | nil => exact ⟨w, h, le_rfl, by simp, .inl rfl⟩
  | cons row rows ih =>
    -- the column as the first row leaves it is what the others start from
    have hwidened := getElem?_widen ws row j
    rw [h] at hwidened
    obtain ⟨v, hv, hle, hrows, hattained⟩ := ih hwidened
    rw [List.foldl_cons]
    cases hcell : row[j]? with
    | none =>
      rw [hcell] at hle hattained
      refine ⟨v, hv, hle, List.forall_mem_cons.mpr ⟨by simp [hcell], hrows⟩, ?_⟩
      exact hattained.imp_right fun ⟨row', hrow', hattained⟩ =>
        ⟨row', List.mem_cons_of_mem row hrow', hattained⟩
    | some cell =>
      rw [hcell] at hle hattained
      simp only [Option.elim_some] at hle hattained
      refine ⟨v, hv, by omega, List.forall_mem_cons.mpr ⟨?_, hrows⟩, ?_⟩
      · intro cell' hcell'
        obtain rfl := Option.some.inj (hcell.symm.trans hcell')
        omega
      · obtain hv' | ⟨row', hrow', hattained⟩ := hattained
        · rcases Nat.le_total (visibleWidth cell) w with hcell' | hcell'
          · exact .inl (hv'.trans (Nat.max_eq_left hcell'))
          · exact .inr ⟨row, List.mem_cons_self, cell, hcell,
              (hv'.trans (Nat.max_eq_right hcell')).symm⟩
        · exact .inr ⟨row', List.mem_cons_of_mem row hrow', hattained⟩

@[simp]
theorem length_columnWidths (header : List String) (rows : List (List String)) :
    (columnWidths header rows).length = header.length := by
  suffices h : ∀ ws, (rows.foldl widen ws).length = ws.length by
    rw [columnWidths, h, List.length_map]
  induction rows with
  | nil => exact fun ws => rfl
  | cons row rows ih =>
    intro ws
    rw [List.foldl_cons, ih, length_widen]

/-- **The width of a column** is the greatest width of its header and its cells. -/
theorem isGreatest_columnWidths (h : (columnWidths header rows)[j]? = some w) :
    IsGreatest {n | ∃ row ∈ header :: rows, ∃ cell, row[j]? = some cell ∧ visibleWidth cell = n}
      w := by
  obtain ⟨hj, -⟩ := List.getElem?_eq_some_iff.mp h
  rw [length_columnWidths] at hj
  have hplain : (header.map visibleWidth)[j]? = some (visibleWidth header[j]) := by
    simp [hj]
  obtain ⟨v, hv, hle, hrows, hattained⟩ := exists_getElem?_foldl_widen rows hplain
  obtain rfl : w = v := Option.some.inj (h.symm.trans hv)
  have hheader : header[j]? = some header[j] := List.getElem?_eq_getElem hj
  constructor
  · obtain rfl | ⟨row, hrow, cell, hcell, hwidth⟩ := hattained
    · exact ⟨header, List.mem_cons_self, header[j], hheader, rfl⟩
    · exact ⟨row, List.mem_cons_of_mem header hrow, cell, hcell, hwidth⟩
  · rintro n ⟨row, hrow, cell, hcell, rfl⟩
    obtain rfl | hrow := List.mem_cons.mp hrow
    · obtain rfl := Option.some.inj (hheader.symm.trans hcell)
      exact hle
    · exact hrows row hrow cell hcell

/-! ### Padding -/

/-- The rows of a table as they are laid out: the header in bold, then the others. -/
def laidOut (header : List String) (rows : List (List String)) : List (List String) :=
  header.map bold :: rows

/-- Each cell of a row that stands in a column is no wider than the column. -/
def Fits (widths : List Nat) (cells : List String) : Prop :=
  ∀ (j : Nat) (cell : String) (w : Nat), cells[j]? = some cell → widths[j]? = some w →
    visibleWidth cell ≤ w

/-- **No cell is wider than its column**, a header in bold included. -/
theorem fits_columnWidths (hrow : row ∈ laidOut header rows) :
    Fits (columnWidths header rows) row := by
  intro j cell w hcell hw
  obtain ⟨-, hgreatest⟩ := isGreatest_columnWidths hw
  obtain rfl | hrow := List.mem_cons.mp hrow
  · rw [List.getElem?_map] at hcell
    obtain ⟨plain, hplain, rfl⟩ := Option.map_eq_some_iff.mp hcell
    have hbold : visibleWidth (bold plain) = visibleWidth plain := visibleWidth_apply .bold plain
    exact hbold ▸ hgreatest ⟨header, List.mem_cons_self, plain, hplain, rfl⟩
  · exact hgreatest ⟨row, List.mem_cons_of_mem header hrow, cell, hcell, rfl⟩

theorem plain_spaces (n : Nat) : '\x1b' ∉ (spaces n).toList := by
  rw [spaces, String.toList_ofList]
  intro h
  exact absurd (List.eq_of_mem_replicate h) (by decide)

theorem visible_padded (h : Finished cell.toList) (w : Nat) :
    visible (padded cell w).toList =
      visible cell.toList ++ List.replicate (w - visibleWidth cell) ' ' := by
  rw [padded, String.toList_append, h.visible_append,
    (finished_and_visible_of_plain (plain_spaces _)).2, spaces, String.toList_ofList]

theorem Finished.padded (h : Finished cell.toList) (w : Nat) :
    Finished (padded cell w).toList := by
  rw [Terminal.padded, String.toList_append]
  exact h.append (finished_and_visible_of_plain (plain_spaces _)).1

theorem length_visible_padded (h : Finished cell.toList) (hle : visibleWidth cell ≤ w) :
    (visible (padded cell w).toList).length = w := by
  rw [visible_padded h, List.length_append, List.length_replicate]
  exact Nat.add_sub_of_le hle

/-! ### Rows -/

/-- The visible column in which a column of the table begins. -/
def columnStart (widths : List Nat) (j : Nat) : Nat :=
  ((widths.take j).map (· + 2)).sum

/-- What a row has before a cell: the cells before it, filled up, two spaces after each. -/
def leading (widths : List Nat) (cells : List String) (j : Nat) : String :=
  String.join ((List.zipWith padded (cells.take j) widths).map (· ++ "  "))

@[simp]
theorem leading_zero (widths : List Nat) (cells : List String) : leading widths cells 0 = "" := rfl

theorem leading_succ (w : Nat) (ws : List Nat) (cell : String) (cells : List String) (j : Nat) :
    leading (w :: ws) (cell :: cells) (j + 1) = padded cell w ++ "  " ++ leading ws cells j := by
  rw [leading, List.take_succ_cons, List.zipWith_cons_cons, List.map_cons, String.join_cons,
    leading]

/-- A row is what leads up to a cell, the cell filled up, and the rest of the row. -/
theorem exists_rowText_eq (hcell : cells[j]? = some cell) (hw : widths[j]? = some w) :
    ∃ after, rowText widths cells = leading widths cells j ++ padded cell w ++ after := by
  induction j generalizing cells widths with
  | zero =>
    cases cells with
    | nil => cases hcell
    | cons first cells =>
      cases widths with
      | nil => cases hw
      | cons v widths =>
        obtain rfl := Option.some.inj hcell
        obtain rfl := Option.some.inj hw
        rw [rowText, List.zipWith_cons_cons, leading_zero, String.empty_append]
        cases List.zipWith padded cells widths with
        | nil => exact ⟨"", by simp⟩
        | cons next others => exact ⟨_, by rw [String.intercalate_cons_cons, String.append_assoc]⟩
  | succ j ih =>
    cases cells with
    | nil => cases hcell
    | cons first cells =>
      cases widths with
      | nil => cases hw
      | cons v widths =>
        rw [List.getElem?_cons_succ] at hcell hw
        obtain ⟨after, hafter⟩ := ih hcell hw
        -- a column follows, so the first cell has a gap behind it
        have hne : List.zipWith padded cells widths ≠ [] := by
          intro hnil
          have hlength := congrArg List.length hnil
          rw [List.length_zipWith, List.length_nil] at hlength
          obtain ⟨hj, -⟩ := List.getElem?_eq_some_iff.mp hcell
          obtain ⟨hj', -⟩ := List.getElem?_eq_some_iff.mp hw
          omega
        refine ⟨after, ?_⟩
        rw [rowText, List.zipWith_cons_cons, String.intercalate_cons_of_ne_nil hne, ← rowText,
          hafter, leading_succ]
        simp [String.append_assoc]

/-- What leads up to a cell is finished and takes the room of the columns before it. -/
theorem leading_spec (hfit : Fits widths cells) (hfinished : ∀ cell ∈ cells, Finished cell.toList)
    (hj : j ≤ cells.length) (hj' : j ≤ widths.length) :
    Finished (leading widths cells j).toList ∧
      visibleWidth (leading widths cells j) = columnStart widths j := by
  induction j generalizing cells widths with
  | zero => exact ⟨.nil, by simp [visibleWidth, visible, columnStart]⟩
  | succ j ih =>
    obtain ⟨first, cells, rfl⟩ := List.exists_cons_of_length_pos (Nat.zero_lt_of_lt hj)
    obtain ⟨v, widths, rfl⟩ := List.exists_cons_of_length_pos (Nat.zero_lt_of_lt hj')
    obtain ⟨hfirst, hothers⟩ := List.forall_mem_cons.mp hfinished
    have hfit' : Fits widths cells := fun i cell w hcell hw => hfit (i + 1) cell w hcell hw
    obtain ⟨hrest, hwidth⟩ := ih hfit' hothers (Nat.le_of_succ_le_succ hj)
      (Nat.le_of_succ_le_succ hj')
    have hle : visibleWidth first ≤ v := hfit 0 first v rfl rfl
    obtain ⟨hgap, hgap'⟩ := finished_and_visible_of_plain
      (show '\x1b' ∉ "  ".toList by decide)
    rw [leading_succ, String.toList_append, String.toList_append]
    refine ⟨((hfirst.padded v).append hgap).append hrest, ?_⟩
    rw [visibleWidth, String.toList_append, String.toList_append,
      ((hfirst.padded v).append hgap).visible_append, (hfirst.padded v).visible_append, hgap',
      List.length_append, List.length_append, length_visible_padded hfirst hle, ← visibleWidth,
      hwidth]
    simp [columnStart]

/-- A cell that stands in a row behind a text, filled up to the width of its column: what is seen
of the row from some visible column on is the cell and the spaces that fill it up. -/
structure StandsAt (row before cell : String) (width column : Nat) : Prop where
  /-- The text of the row. -/
  text : ∃ after, row = before ++ padded cell width ++ after
  /-- The text before the cell ends right before the column. -/
  starts : visibleWidth before = column
  /-- What is seen in the room of the cell. -/
  seen : ((visible row.toList).drop column).take width =
    visible cell.toList ++ List.replicate (width - visibleWidth cell) ' '

/-- **A cell of a row begins** where the columns before it end. -/
theorem standsAt_rowText (hfit : Fits widths cells)
    (hfinished : ∀ cell ∈ cells, Finished cell.toList) (hcell : cells[j]? = some cell)
    (hw : widths[j]? = some w) :
    StandsAt (rowText widths cells) (leading widths cells j) cell w (columnStart widths j) := by
  obtain ⟨hj, -⟩ := List.getElem?_eq_some_iff.mp hcell
  obtain ⟨hj', -⟩ := List.getElem?_eq_some_iff.mp hw
  obtain ⟨hleading, hcolumn⟩ := leading_spec hfit hfinished hj.le hj'.le
  obtain ⟨after, hafter⟩ := exists_rowText_eq hcell hw
  have hclosed : Finished cell.toList := hfinished cell (List.mem_of_getElem? hcell)
  refine ⟨⟨after, hafter⟩, hcolumn, ?_⟩
  have hlength : (visible (leading widths cells j).toList).length = columnStart widths j := hcolumn
  have hroom : (visible (padded cell w).toList).length = w :=
    length_visible_padded hclosed (hfit j cell w hcell hw)
  -- what is seen of the row is what is seen of its three parts, the first two being finished
  rw [hafter, String.toList_append, String.toList_append, List.append_assoc,
    hleading.visible_append, (hclosed.padded w).visible_append, ← hlength, List.drop_left,
    List.take_left' hroom, visible_padded hclosed]

/-! ### Tables -/

/-- The lines of a table before the blanks at their ends are removed. -/
def tableLines (header : List String) (rows : List (List String)) : List String :=
  (laidOut header rows).map (rowText (columnWidths header rows))

theorem table_eq (header : List String) (rows : List (List String)) :
    table header rows = "\n".intercalate ((tableLines header rows).map trimmedEnd) := by
  rw [tableLines, List.map_map]
  rfl

theorem length_tableLines (header : List String) (rows : List (List String)) :
    (tableLines header rows).length = 1 + rows.length := by
  rw [tableLines, List.length_map, laidOut, List.length_cons, Nat.add_comm]

/-- A header in bold is finished if it is without. -/
theorem finished_laidOut (h : ∀ row ∈ header :: rows, ∀ cell ∈ row, Finished cell.toList) :
    ∀ row ∈ laidOut header rows, ∀ cell ∈ row, Finished cell.toList := by
  obtain ⟨hheader, hrows⟩ := List.forall_mem_cons.mp h
  refine List.forall_mem_cons.mpr ⟨?_, hrows⟩
  intro cell hcell
  obtain ⟨plain, hplain, rfl⟩ := List.mem_map.mp hcell
  exact (hheader plain hplain).apply .bold

/-- Only the cells in the columns are written. -/
theorem rowText_take (widths : List Nat) (cells : List String) :
    rowText widths (cells.take widths.length) = rowText widths cells := by
  have hzip : List.zipWith padded (cells.take widths.length) widths =
      List.zipWith padded cells widths := by
    induction widths generalizing cells with
    | nil => simp
    | cons w widths ih =>
      cases cells with
      | nil => rfl
      | cons cell cells =>
        rw [List.length_cons, List.take_succ_cons, List.zipWith_cons_cons, List.zipWith_cons_cons,
          ih]
  rw [rowText, hzip, rowText]

theorem columnWidths_map_take (header : List String) (rows : List (List String)) :
    columnWidths header (rows.map (·.take header.length)) = columnWidths header rows := by
  suffices h : ∀ ws : List Nat, ws.length = header.length →
      (rows.map (·.take header.length)).foldl widen ws = rows.foldl widen ws from
    h _ (List.length_map visibleWidth)
  induction rows with
  | nil => exact fun ws _ => rfl
  | cons row rows ih =>
    intro ws hws
    rw [List.map_cons, List.foldl_cons, List.foldl_cons, ← hws, widen_take, hws]
    exact ih (widen ws row) ((length_widen ws row).trans hws)

/-- **Cells beyond the header's** change nothing in a table. -/
theorem table_map_take (header : List String) (rows : List (List String)) :
    table header (rows.map (·.take header.length)) = table header rows := by
  have hrow : ∀ row : List String, rowText (columnWidths header rows) (row.take header.length) =
      rowText (columnWidths header rows) row := by
    intro row
    have htake := rowText_take (columnWidths header rows) row
    rwa [length_columnWidths] at htake
  rw [table, table, columnWidths_map_take]
  simp [hrow, Function.comp_def]

/-- **Tables are aligned.**  There is one column for each text of the header, and a column is as
wide as the widest of the header's text and the cells in it.  No cell that is laid out, the header's
in bold included, is wider than its column, so filling it up never subtracts too much.  The table is
the line of the header and one line for each row, joined by newlines, without the blanks at their
ends; cells beyond the header's do not change it.  If no text of the header and no cell ends inside
an escape sequence, the cell of a column begins in the same visible column in each line: behind the
widths of the columns before it and two spaces for each of them. -/
theorem table_aligned (header : List String) (rows : List (List String)) :
    ((columnWidths header rows).length = header.length ∧
      ∀ (j w : Nat), (columnWidths header rows)[j]? = some w →
        IsGreatest
          {n | ∃ row ∈ header :: rows, ∃ cell, row[j]? = some cell ∧ visibleWidth cell = n} w) ∧
    (∀ row ∈ laidOut header rows, Fits (columnWidths header rows) row) ∧
    ((tableLines header rows).length = 1 + rows.length ∧
      table header rows = "\n".intercalate ((tableLines header rows).map trimmedEnd)) ∧
    table header (rows.map (·.take header.length)) = table header rows ∧
    ((∀ row ∈ header :: rows, ∀ cell ∈ row, Finished cell.toList) →
      ∀ (k : Nat) (row : List String), (laidOut header rows)[k]? = some row →
        ∃ line, (tableLines header rows)[k]? = some line ∧
          ∀ (j : Nat) (cell : String) (w : Nat), row[j]? = some cell →
            (columnWidths header rows)[j]? = some w →
              StandsAt line (leading (columnWidths header rows) row j) cell w
                (columnStart (columnWidths header rows) j)) := by
  refine ⟨⟨length_columnWidths header rows, fun j w => isGreatest_columnWidths⟩,
    fun row => fits_columnWidths, ⟨length_tableLines header rows, table_eq header rows⟩,
    table_map_take header rows, ?_⟩
  intro hfinished k row hrow
  have hmem : row ∈ laidOut header rows := List.mem_of_getElem? hrow
  refine ⟨rowText (columnWidths header rows) row, by rw [tableLines, List.getElem?_map, hrow]; rfl,
    ?_⟩
  intro j cell w hcell hw
  exact standsAt_rowText (fits_columnWidths hmem) (finished_laidOut hfinished row hmem) hcell hw

/-- Behind a cell in green the second column begins where it does in the other lines. -/
theorem table_aligned_green :
    ∃ line, (tableLines ["ID", "Name"] [["1"], [Style.green.apply "22", "alpha", "more"]])[2]? =
        some line ∧
      StandsAt line (leading [2, 5] [Style.green.apply "22", "alpha", "more"] 1) "alpha" 5 4 := by
  have hwidths : columnWidths ["ID", "Name"] [["1"], [Style.green.apply "22", "alpha", "more"]] =
      [2, 5] := by
    have hgreen : visibleWidth (Style.green.apply "22") = visibleWidth "22" :=
      visibleWidth_apply .green "22"
    simp only [columnWidths, List.map_cons, List.map_nil, List.foldl_cons, List.foldl_nil, widen,
      hgreen]
    simp [visibleWidth, visible]
  have hplain : ∀ s ∈ ["ID", "Name", "1", "22", "alpha", "more"], Finished s.toList := by
    intro s hs
    have hescape : '\x1b' ∉ s.toList := by
      revert s
      decide
    exact (finished_and_visible_of_plain hescape).1
  have hfinished : ∀ row ∈ [["ID", "Name"], ["1"], [Style.green.apply "22", "alpha", "more"]],
      ∀ cell ∈ row, Finished cell.toList := by
    have hcells : ∀ row ∈ [["ID", "Name"], ["1"], [Style.green.apply "22", "alpha", "more"]],
        ∀ cell ∈ row, cell = Style.green.apply "22" ∨
          cell ∈ ["ID", "Name", "1", "22", "alpha", "more"] := by
      simp
    intro row hrow cell hcell
    obtain rfl | hmem := hcells row hrow cell hcell
    · exact (hplain "22" (by decide)).apply .green
    · exact hplain cell hmem
  obtain ⟨-, -, -, -, haligned⟩ :=
    table_aligned ["ID", "Name"] [["1"], [Style.green.apply "22", "alpha", "more"]]
  obtain ⟨line, hline, hstands⟩ := haligned hfinished 2 _ rfl
  rw [hwidths] at hstands
  exact ⟨line, hline, hstands 1 "alpha" 5 rfl rfl⟩

end MeshControl.Terminal
