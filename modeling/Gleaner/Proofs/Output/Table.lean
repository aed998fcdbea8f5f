import Gleaner.Output.Writer
import Gleaner.Proofs.Text.Line
import Mathlib.Data.List.Forall2
import Mathlib.Order.Bounds.Basic

/-!
# Tables line up

A bar is no white space, so trimming a line takes nothing away in front of its last bar. Where every
cell fits its column, the bars of all lines therefore stand where the crossings of the separator
stand, and what is between two bars is a cell with blanks behind it. The cells do fit, since a
column is as wide as the widest of its cells and no wider.
-/

namespace Gleaner.Output

open Text

namespace Table

/-! ### Widths -/

def cellLengths (rows : List (List String)) (column : Nat) : Set Nat :=
  {n | ∃ row ∈ rows, ∃ cell, row[column]? = some cell ∧ cell.length = n}

/-- Widths of columns, each that of the widest cell among the rows. -/
structure AreWidths (columns : Nat) (rows : List (List String)) (widths : List Nat) : Prop where
  length_eq : widths.length = columns
  isGreatest {column width : Nat} (hwidth : widths[column]? = some width) :
    IsGreatest (cellLengths rows column) width

variable {columns : Nat} {row : List String} {rows : List (List String)} {widths : List Nat}

theorem cellLengths_append (rows more : List (List String)) (column : Nat) :
    cellLengths (rows ++ more) column = cellLengths rows column ∪ cellLengths more column := by
  ext n
  simp only [cellLengths, Set.mem_union, Set.mem_ofPred_eq, List.mem_append, or_and_right,
    exists_or]

theorem cellLengths_singleton {column : Nat} {cell : String} (h : row[column]? = some cell) :
    cellLengths [row] column = {cell.length} := by
  ext n
  simp [cellLengths, h, eq_comm]

theorem areWidths_header (header : List String) :
    AreWidths header.length [header] (header.map String.length) where
  length_eq := List.length_map _
  isGreatest {column width} hwidth := by
    rw [List.getElem?_map, Option.map_eq_some_iff] at hwidth
    obtain ⟨cell, hcell, rfl⟩ := hwidth
    rw [cellLengths_singleton hcell]
    exact isGreatest_singleton

theorem widen_eq_zipWith (h : row.length = widths.length) :
    widen widths row = List.zipWith (fun width cell => max width cell.length) widths row := by
  induction widths generalizing row with
  | nil => cases row <;> rfl
  | cons width widths ih =>
    cases row with
    | nil => simp at h
    | cons cell cells => rw [widen, ih (by simpa using h), List.zipWith_cons_cons]

theorem AreWidths.widen (h : AreWidths columns rows widths) (hrow : row.length = columns) :
    AreWidths columns (rows ++ [row]) (Table.widen widths row) := by
  have hlength : row.length = widths.length := hrow.trans h.length_eq.symm
  rw [widen_eq_zipWith hlength]
  constructor
  · rw [List.length_zipWith, hlength, Nat.min_self, h.length_eq]
  · intro column width hwidth
    obtain ⟨old, cell, hold, hcell, rfl⟩ := List.getElem?_zipWith_eq_some.1 hwidth
    rw [cellLengths_append, cellLengths_singleton hcell]
    exact (h.isGreatest hold).union isGreatest_singleton

theorem AreWidths.foldl (h : AreWidths columns rows widths) {more : List (List String)}
    (hmore : ∀ row ∈ more, row.length = columns) :
    AreWidths columns (rows ++ more) (more.foldl Table.widen widths) := by
  induction more generalizing rows widths with
  | nil => rwa [List.append_nil]
  | cons row more ih =>
    rw [List.foldl_cons, List.append_cons]
    exact ih (h.widen (hmore row List.mem_cons_self))
      fun other hother => hmore other (List.mem_cons_of_mem _ hother)

theorem areWidths_widths (header : List String) (hrows : ∀ row ∈ rows, row.length = header.length) :
    AreWidths header.length (header :: rows) (Table.widths header rows) :=
  (areWidths_header header).foldl hrows

def Fits (widths : List Nat) (row : List String) : Prop :=
  List.Forall₂ (fun width cell => cell.length ≤ width) widths row

theorem AreWidths.fits (h : AreWidths columns rows widths) (hmem : row ∈ rows)
    (hrow : row.length = columns) : Fits widths row := by
  apply List.forall₂_iff_get.2
  constructor
  · rw [h.length_eq, hrow]
  · intro column hwidth hcell
    apply (h.isGreatest (List.getElem?_eq_getElem hwidth)).2
    exact ⟨row, hmem, _, List.getElem?_eq_getElem hcell, rfl⟩

/-! ### Padded cells -/

variable {c : Char} {chars : List Char} {width : Nat} {cell : String}

theorem toList_pad (width : Nat) (cell : String) :
    (pad width cell).toList = cell.toList ++ List.replicate (width - cell.length) ' ' := by
  rw [pad, String.toList_append, String.toList_ofList]

theorem length_pad (h : cell.length ≤ width) : (pad width cell).toList.length = width := by
  rw [toList_pad, List.length_append, List.length_replicate, String.length_toList]
  omega

theorem trimEnd_pad (width : Nat) (cell : String) :
    trimEnd (pad width cell).toList = trimEnd cell.toList := by
  rw [toList_pad]
  apply trimEnd_append_of_blank
  apply List.all_eq_true.2
  intro c hc
  rw [List.eq_of_mem_replicate hc]
  decide

theorem not_mem_pad (hblank : c ≠ ' ') (hc : c ∉ cell.toList) : c ∉ (pad width cell).toList := by
  rw [toList_pad, List.mem_append, not_or]
  exact ⟨hc, fun h => hblank (List.eq_of_mem_replicate h)⟩

def padded (widths : List Nat) (row : List String) : List (List Char) :=
  (padRow widths row).map String.toList

theorem map_length_padded (h : Fits widths row) : (padded widths row).map List.length = widths := by
  induction h with
  | nil => rfl
  | cons hcell _ ih =>
    rw [padded, padRow, List.map_cons, List.map_cons, length_pad hcell]
    exact congrArg _ ih

theorem map_trimEnd_padded (h : Fits widths row) :
    (padded widths row).map trimEnd = row.map fun cell => trimEnd cell.toList := by
  induction h with
  | nil => rfl
  | cons _ _ ih =>
    rw [padded, padRow, List.map_cons, List.map_cons, trimEnd_pad]
    exact congrArg _ ih

theorem not_mem_padded (h : Fits widths row) (hblank : c ≠ ' ')
    (hc : ∀ cell ∈ row, c ∉ cell.toList) : ∀ chars ∈ padded widths row, c ∉ chars := by
  induction h with
  | nil => exact List.forall_mem_nil _
  | cons _ _ ih =>
    rw [List.forall_mem_cons] at hc
    exact List.forall_mem_cons.2 ⟨not_mem_pad hblank hc.1, ih hc.2⟩

/-! ### Bars -/

/-- What follows a bar is never trimmed together with what stands in front of it. -/
theorem trimEnd_intercalate_cons_cons (lead first second : List Char) (rest : List (List Char)) :
    trimEnd (lead ++ [' ', '│', ' '].intercalate (first :: second :: rest)) =
      lead ++ first ++ [' '] ++
        '│' :: trimEnd ([' '] ++ [' ', '│', ' '].intercalate (second :: rest)) := by
  rw [← trimEnd_append_cons (by decide), List.intercalate_cons_cons]
  simp

/-- The positions between columns, the first of which begins at `start`. -/
def crossings (start : Nat) : List Nat → List Nat
  | width :: next :: widths => (start + width + 1) :: crossings (start + width + 3) (next :: widths)
  | _ => []

theorem length_crossings (start : Nat) (widths : List Nat) :
    (crossings start widths).length = widths.length - 1 := by
  induction widths generalizing start with
  | nil => rfl
  | cons width rest ih =>
    cases rest with
    | nil => rfl
    | cons next rest =>
      rw [crossings, List.length_cons, ih]
      rfl

theorem idxsOf_eq_nil (h : c ∉ chars) (start : Nat) : chars.idxsOf c start = [] := by
  apply List.idxsOf_eq_nil_iff.2
  intro other hother
  exact beq_eq_false_iff_ne.2 fun heq => h (heq ▸ hother)

theorem idxsOf_append_cons (h : c ∉ chars) (after : List Char) (start : Nat) :
    (chars ++ c :: after).idxsOf c start =
      (start + chars.length) :: after.idxsOf c (start + chars.length + 1) := by
  rw [List.idxsOf_append, idxsOf_eq_nil h, List.nil_append, List.idxsOf_cons,
    if_pos (beq_self_eq_true c)]

-- The induction takes a line apart at its first bar. What is left begins with the blank behind the
-- bar and the whole line does not, so what stands in front of the cells is any text without a bar.
theorem idxsOf_bar (lead : List Char) (hlead : '│' ∉ lead) {cells : List (List Char)}
    (hcells : ∀ cell ∈ cells, '│' ∉ cell) (start : Nat) :
    (trimEnd (lead ++ [' ', '│', ' '].intercalate cells)).idxsOf '│' start =
      crossings (start + lead.length) (cells.map List.length) := by
  induction cells generalizing lead start with
  | nil =>
    rw [List.intercalate_nil, List.append_nil]
    exact idxsOf_eq_nil (fun h => hlead (mem_of_mem_trimEnd h)) start
  | cons first rest ih =>
    rw [List.forall_mem_cons] at hcells
    cases rest with
    | nil =>
      have hbar : '│' ∉ lead ++ first := by simp [hlead, hcells.1]
      rw [List.intercalate_singleton]
      exact idxsOf_eq_nil (fun h => hbar (mem_of_mem_trimEnd h)) start
    | cons second rest =>
      have hbar : '│' ∉ lead ++ first ++ [' '] := by simp [hlead, hcells.1]
      rw [trimEnd_intercalate_cons_cons, idxsOf_append_cons hbar, ih [' '] (by decide) hcells.2]
      simp only [List.length_append, List.length_singleton, List.map_cons, crossings]
      exact congrArg₂ List.cons (by omega) (congrArg (crossings · _) (by omega))

theorem toList_separator_cons_cons (width next : Nat) (rest : List Nat) :
    (separator (width :: next :: rest)).toList =
      List.replicate (width + 1) '─' ++ '┼' :: '─' :: (separator (next :: rest)).toList := by
  simp [separator, String.intercalate_cons_cons, List.replicate_succ']

theorem idxsOf_crossing (start : Nat) (widths : List Nat) :
    (separator widths).toList.idxsOf '┼' start = crossings start widths := by
  have hdashes (n : Nat) : '┼' ∉ List.replicate n '─' :=
    fun h => absurd (List.eq_of_mem_replicate h) (by decide)
  induction widths generalizing start with
  | nil => rfl
  | cons width rest ih =>
    cases rest with
    | nil =>
      rw [separator, List.map_singleton, String.intercalate_singleton, String.toList_ofList]
      exact idxsOf_eq_nil (hdashes width) start
    | cons next rest =>
      rw [toList_separator_cons_cons, idxsOf_append_cons (hdashes _), List.idxsOf_cons,
        if_neg (by decide), ih, List.length_replicate, crossings]
      exact congrArg₂ List.cons (by omega) (congrArg (crossings · _) (by omega))

/-! ### Cells -/

/-- The cells of a line, as many as there are columns, without what was put around them. -/
def readCells (columns : Nat) (line : String) : List String :=
  match line.toList.splitOn '│' with
  | [] => []
  | first :: rest =>
    ((first :: rest.map (List.drop 1)).map fun piece => String.ofList (trimEnd piece)).take columns

theorem splitOn_bar (lead : List Char) (hlead : '│' ∉ lead) {first : List Char}
    {rest : List (List Char)} (hcells : ∀ cell ∈ first :: rest, '│' ∉ cell) :
    ∃ head tail,
      (trimEnd (lead ++ [' ', '│', ' '].intercalate (first :: rest))).splitOn '│' = head :: tail ∧
        trimEnd (head.drop lead.length) = trimEnd first ∧
        tail.map (fun piece => trimEnd (piece.drop 1)) = rest.map trimEnd := by
  have hsingle {chars : List Char} (h : '│' ∉ chars) : chars.splitOn '│' = [chars] := by
    apply List.splitOnP_eq_singleton
    intro c hc
    exact beq_eq_false_iff_ne.2 fun heq => h (heq ▸ hc)
  induction rest generalizing lead first with
  | nil =>
    have hbar : '│' ∉ lead ++ first := by simp [hlead, hcells first List.mem_cons_self]
    rw [List.intercalate_singleton, hsingle fun h => hbar (mem_of_mem_trimEnd h)]
    exact ⟨_, [], rfl, trimEnd_drop_trimEnd_append lead first, rfl⟩
  | cons second rest ih =>
    rw [List.forall_mem_cons] at hcells
    have hbar : '│' ∉ lead ++ first ++ [' '] := by simp [hlead, hcells.1]
    obtain ⟨head, tail, hsplit, hhead, htail⟩ := ih [' '] (by decide) hcells.2
    rw [trimEnd_intercalate_cons_cons, List.splitOn, List.splitOnP_append_cons _ _ (by simp),
      ← List.splitOn, ← List.splitOn, hsingle hbar, hsplit]
    refine ⟨_, head :: tail, rfl, ?_, ?_⟩
    · rw [List.append_assoc, List.drop_left, trimEnd_append_of_blank (by decide)]
    · rw [List.map_cons, List.map_cons, htail]
      exact congrArg (· :: _) hhead

/-- A line that has its bars in the given places and shows the cells of a row between them. -/
structure ShowsRow (bars : List Nat) (row : List String) (line : String) : Prop where
  idxsOf_eq : line.toList.idxsOf '│' = bars
  readCells_eq : readCells row.length line = row.map fun cell => String.ofList (trimEnd cell.toList)

theorem toList_rowLine (widths : List Nat) (row : List String) :
    (rowLine widths row).toList = trimEnd ([' ', '│', ' '].intercalate (padded widths row)) := by
  rw [rowLine, String.toList_ofList, String.toList_intercalate]
  rfl

theorem readCells_rowLine (h : Fits widths row) (hbar : ∀ cell ∈ row, '│' ∉ cell.toList) :
    readCells row.length (rowLine widths row) =
      row.map fun cell => String.ofList (trimEnd cell.toList) := by
  have hcells := not_mem_padded h (by decide) hbar
  have htrim : row.map (fun cell => String.ofList (trimEnd cell.toList)) =
      (padded widths row).map fun cell => String.ofList (trimEnd cell) := by
    have hpadded := congrArg (List.map String.ofList) (map_trimEnd_padded h)
    rw [List.map_map, List.map_map] at hpadded
    exact hpadded.symm
  have hlength := congrArg List.length htrim
  rw [List.length_map, List.length_map] at hlength
  rw [htrim, hlength, readCells, toList_rowLine]
  generalize padded widths row = cells at hcells
  cases cells with
  | nil => rfl
  | cons first rest =>
    obtain ⟨head, tail, hsplit, hhead, htail⟩ := splitOn_bar [] List.not_mem_nil hcells
    have hpieces : (head :: tail.map (List.drop 1)).map trimEnd = (first :: rest).map trimEnd := by
      rw [List.map_cons, List.map_map, List.map_cons]
      exact congrArg₂ List.cons hhead htail
    have htexts := congrArg (List.map String.ofList) hpieces
    rw [List.map_map, List.map_map] at htexts
    rw [List.nil_append] at hsplit
    rw [hsplit]
    refine (congrArg (List.take _) htexts).trans ?_
    exact List.take_of_length_le (List.length_map _).le

theorem showsRow_rowLine (h : Fits widths row) (hbar : ∀ cell ∈ row, '│' ∉ cell.toList) :
    ShowsRow ((separator widths).toList.idxsOf '┼') row (rowLine widths row) where
  idxsOf_eq := by
    have hpositions := idxsOf_bar [] List.not_mem_nil (not_mem_padded h (by decide) hbar) 0
    rw [map_length_padded h] at hpositions
    rw [toList_rowLine, idxsOf_crossing]
    exact hpositions
  readCells_eq := readCells_rowLine h hbar

/-! ### Tables -/

theorem isLine_rowLine (h : Fits widths row) (hbreak : ∀ cell ∈ row, IsLine cell) :
    IsLine (rowLine widths row) := by
  have hcells : ∀ cell ∈ padRow widths row, IsLine cell :=
    (List.forall_mem_map (f := String.toList)).1 (not_mem_padded h (by decide) hbreak)
  exact isLine_ofList.2 fun hmem =>
    isLine_intercalate (by decide) hcells (mem_of_mem_trimEnd hmem)

theorem isLine_separator (widths : List Nat) : IsLine (separator widths) := by
  apply isLine_intercalate (by decide)
  rw [List.forall_mem_map]
  intro width _
  exact isLine_ofList.2 fun h => absurd (List.eq_of_mem_replicate h) (by decide)

end Table

theorem Writer.table_eq {w : Writer} (hformat : w.format = .human) (hcolor : w.color = false)
    (hquiet : w.quiet = false) (header : List String) (rows : List (List String)) :
    w.table header rows = String.join ((Table.lines false header rows).map line) := by
  simp [table, remark, hformat, hcolor, hquiet]

/-- A table is its header, a separator with a crossing between any two columns, and its rows. Bars
stand where the crossings stand, a column is as wide as its widest cell, and the cells of a row can
be read from its line. -/
theorem Writer.table_aligned {w : Writer} (hformat : w.format = .human) (hcolor : w.color = false)
    (hquiet : w.quiet = false) {header : List String} {rows : List (List String)}
    (hrows : ∀ row ∈ rows, row.length = header.length)
    (hcells : ∀ row ∈ header :: rows, ∀ cell ∈ row, IsLine cell ∧ '│' ∉ cell.toList) :
    ∃ widths headerLine rowLines,
      Text.lines (w.table header rows) = headerLine :: Table.separator widths :: rowLines ∧
        (Text.lines (w.table header rows)).length = 2 + rows.length ∧
        Table.AreWidths header.length (header :: rows) widths ∧
        ((Table.separator widths).toList.idxsOf '┼').length = header.length - 1 ∧
        List.Forall₂ (Table.ShowsRow ((Table.separator widths).toList.idxsOf '┼'))
          (header :: rows) (headerLine :: rowLines) := by
  have hwidths := Table.areWidths_widths header hrows
  have hfits : ∀ row ∈ header :: rows, Table.Fits (Table.widths header rows) row := by
    intro row hrow
    apply hwidths.fits hrow
    obtain rfl | hrow := List.mem_cons.1 hrow
    · rfl
    · exact hrows row hrow
  have hlines : Text.lines (w.table header rows) = Table.lines false header rows := by
    have hline : ∀ row ∈ header :: rows, IsLine (Table.rowLine (Table.widths header rows) row) :=
      fun row hrow =>
        Table.isLine_rowLine (hfits row hrow) fun cell hcell => (hcells row hrow cell hcell).1
    obtain ⟨hheader, hrest⟩ := List.forall_mem_cons.1 hline
    rw [table_eq hformat hcolor hquiet]
    apply lines_join
    exact List.forall_mem_cons.2 ⟨hheader, List.forall_mem_cons.2
      ⟨Table.isLine_separator _, List.forall_mem_map.2 hrest⟩⟩
  refine ⟨Table.widths header rows, Table.rowLine (Table.widths header rows) header,
    rows.map (Table.rowLine (Table.widths header rows)), hlines, ?_, hwidths, ?_, ?_⟩
  · rw [hlines]
    simp [Table.lines]
    omega
  · rw [Table.idxsOf_crossing, Table.length_crossings, hwidths.length_eq]
  · rw [← List.map_cons, List.forall₂_map_right_iff, List.forall₂_same]
    intro row hrow
    exact Table.showsRow_rowLine (hfits row hrow) fun cell hcell => (hcells row hrow cell hcell).2

theorem Writer.table_aligned_blank :
    let w : Writer := { format := .human, color := false, quiet := false }
    let rows := [["1", " "], ["日本 ", " x"]]
    w.table ["größe", "b"] rows = "größe │ b\n──────┼───\n1     │\n日本    │  x\n" ∧
      (∀ row ∈ rows, row.length = ["größe", "b"].length) ∧
      (∀ row ∈ ["größe", "b"] :: rows, ∀ cell ∈ row, IsLine cell ∧ '│' ∉ cell.toList) ∧
      ∃ widths headerLine rowLines,
        Text.lines (w.table ["größe", "b"] rows) =
            headerLine :: Table.separator widths :: rowLines ∧
          Table.AreWidths 2 (["größe", "b"] :: rows) widths ∧
          List.Forall₂ (Table.ShowsRow ((Table.separator widths).toList.idxsOf '┼'))
            (["größe", "b"] :: rows) (headerLine :: rowLines) := by
  intro w rows
  have hrows : ∀ row ∈ rows, row.length = ["größe", "b"].length := by decide
  have hcells : ∀ row ∈ ["größe", "b"] :: rows, ∀ cell ∈ row,
      IsLine cell ∧ '│' ∉ cell.toList := by decide
  obtain ⟨widths, headerLine, rowLines, hlines, -, hwidths, -, hshown⟩ :=
    Writer.table_aligned (w := w) rfl rfl rfl hrows hcells
  exact ⟨by decide +kernel, hrows, hcells, widths, headerLine, rowLines, hlines, hwidths, hshown⟩

end Gleaner.Output
