-- SUMMARY: The cells of a table stand below each other in columns of common widths.
import Mathlib
import SdnZones.Command.Table
import SdnZones.Proofs.Text.CommaList
import SdnZones.Proofs.Text.Occurrence

/-!
# Columns of a table

Widths are counted in bytes and cells are filled up by characters, so a cell is never wider than
its column (`length_le_of_width`). A line is laid out cell by cell: `LaidOut.last` and
`LaidOut.cons` add a column in front, and by induction every cell of a line stands at the offset
of its column (`laidOut_fullLine`). What is printed is such a line without the white space at its
end (`Table.columns_aligned`).
-/

namespace SdnZones

/-- A character takes at least one byte. -/
theorem Utf8.length_le_byteLength (cs : List Char) : cs.length ≤ byteLength cs := by
  induction cs with
  | nil => exact Nat.le_refl 0
  | cons c cs ih =>
    have pos := c.utf8Size_pos
    have step : byteLength (c :: cs) = c.utf8Size + byteLength cs := rfl
    rw [List.length_cons, step]
    omega

namespace Table

variable {ws : List Nat} {w i : Nat} {cell : String} {cells : List String} {text : List Char}

/-! ## Widths -/

theorem le_foldl_max {x start : Nat} {xs : List Nat} (h : x ≤ start ∨ x ∈ xs) :
    x ≤ xs.foldl max start := by
  induction xs generalizing start with
  | nil => exact h.resolve_right List.not_mem_nil
  | cons y xs ih =>
    rw [List.foldl_cons]
    apply ih
    rcases h with small | inside
    · exact .inl (Nat.le_trans small (Nat.le_max_left start y))
    · rcases List.mem_cons.1 inside with rfl | inside
      · exact .inl (Nat.le_max_right start x)
      · exact .inr inside

theorem length_widthsFrom (rows : List (List String)) (i : Nat) (headers : List String) :
    (widthsFrom rows i headers).length = headers.length := by
  induction headers generalizing i with
  | nil => rfl
  | cons header headers ih => rw [widthsFrom, List.length_cons, List.length_cons, ih]

theorem length_widths (headers : List String) (rows : List (List String)) :
    (widths headers rows).length = headers.length := length_widthsFrom rows 0 headers

/-- A column is as wide as its header and every cell in it. -/
theorem cellWidth_le_of_widthsFrom {headers : List String} {rows : List (List String)} {start : Nat}
    (width : (widthsFrom rows start headers)[i]? = some w)
    (inside : headers[i]? = some cell ∨ ∃ row ∈ rows, row[start + i]? = some cell) :
    cellWidth cell ≤ w := by
  induction headers generalizing start i with
  | nil => cases width
  | cons header headers ih =>
    cases i with
    | zero =>
      cases width
      refine le_foldl_max (inside.imp (fun top => ?_) fun ⟨row, hrow, below⟩ => ?_)
      · rw [Option.some.inj top]
      · exact List.mem_map_of_mem (List.mem_filterMap.2 ⟨row, hrow, below⟩)
    | succ i =>
      refine ih width (inside.imp id fun ⟨row, hrow, below⟩ => ⟨row, hrow, ?_⟩)
      rw [← below, Nat.add_right_comm, Nat.add_assoc]

/-- No cell of a line has more characters than its column is wide. -/
def Fits (ws : List Nat) (cells : List String) : Prop :=
  ∀ (i : Nat) (cell : String) (w : Nat),
    cells[i]? = some cell → ws[i]? = some w → cell.length ≤ w

theorem fits_widths {headers : List String} {rows : List (List String)} {cells : List String}
    (h : cells ∈ headers :: rows) : Fits (widths headers rows) cells := by
  intro i cell w hcell width
  have bytes : cellWidth cell ≤ w := by
    refine cellWidth_le_of_widthsFrom width ?_
    rcases List.mem_cons.1 h with rfl | row
    · exact .inl hcell
    · exact .inr ⟨cells, row, by rw [Nat.zero_add, hcell]⟩
  have chars := Utf8.length_le_byteLength cell.toList
  rw [String.length_toList] at chars
  exact Nat.le_trans chars bytes

theorem Fits.head (fits : Fits (w :: ws) (cell :: cells)) : cell.length ≤ w :=
  fits 0 cell w rfl rfl

theorem Fits.tail (fits : Fits (w :: ws) (cell :: cells)) : Fits ws cells :=
  fun i cell w hcell width => fits (i + 1) cell w hcell width

/-! ## Columns -/

/-- The offset at which a column starts: columns have two spaces between them. -/
def offset (ws : List Nat) (i : Nat) : Nat := ((ws.take i).map (· + 2)).sum

@[simp] theorem offset_nil (i : Nat) : offset [] i = 0 := by simp [offset]

@[simp] theorem offset_zero (ws : List Nat) : offset ws 0 = 0 := by simp [offset]

@[simp] theorem offset_cons_succ (w : Nat) (ws : List Nat) (i : Nat) :
    offset (w :: ws) (i + 1) = w + 2 + offset ws i := by simp [offset]

theorem offset_le (ws : List Nat) (i : Nat) : offset ws i ≤ ws.sum + 2 * ws.length := by
  induction ws generalizing i with
  | nil => simp
  | cons w ws ih =>
    cases i with
    | zero => simp
    | succ i =>
      have rest := ih i
      rw [offset_cons_succ, List.sum_cons, List.length_cons]
      omega

/-- A text in columns: up to the next column there is the cell of the column, whole, and nothing
but spaces after it; and there is nothing beyond the columns that have a cell. -/
structure LaidOut (ws : List Nat) (cells : List String) (text : List Char) : Prop where
  column : ∀ i cell w, cells[i]? = some cell → ws[i]? = some w →
    cell.length ≤ w ∧ ∃ spaces, (text.drop (offset ws i)).take (w + 2) =
      cell.toList ++ List.replicate spaces ' '
  extent : text.length = offset ws (min cells.length ws.length) - 2

theorem length_padded (fits : cell.length ≤ w) : (padded cell w).length = w := by
  rw [padded, List.length_append, List.length_replicate, String.length_toList]
  omega

theorem LaidOut.nil (none : cells = [] ∨ ws = []) : LaidOut ws cells [] where
  column := by
    rintro i cell w hcell width
    rcases none with rfl | rfl
    · cases hcell
    · cases width
  extent := by rcases none with rfl | rfl <;> simp

/-- The last column of a line. -/
theorem LaidOut.last (fits : cell.length ≤ w) (none : cells = [] ∨ ws = []) :
    LaidOut (w :: ws) (cell :: cells) (padded cell w) where
  column := by
    rintro (_ | i) cell' w' hcell width
    · cases hcell
      cases width
      refine ⟨fits, w - cell.length, ?_⟩
      rw [offset_zero, List.drop_zero, List.take_of_length_le, padded]
      rw [length_padded fits]
      omega
    · rcases none with rfl | rfl
      · cases hcell
      · cases width
  extent := by
    rw [length_padded fits]
    rcases none with rfl | rfl <;> simp

/-- A column before others. -/
theorem LaidOut.cons {next : String} {v : Nat} (fits : cell.length ≤ w)
    (rest : LaidOut (v :: ws) (next :: cells) text) :
    LaidOut (w :: v :: ws) (cell :: next :: cells) (padded cell w ++ ' ' :: ' ' :: text) where
  column := by
    have width := length_padded fits
    rintro (_ | i) cell' w' hcell width'
    · cases hcell
      cases width'
      refine ⟨fits, w - cell.length + 2, ?_⟩
      have whole : padded cell w ++ ' ' :: ' ' :: text = (padded cell w ++ [' ', ' ']) ++ text := by
        simp
      rw [offset_zero, List.drop_zero, whole, List.take_left' (by simp [width]), padded,
        List.append_assoc, List.replicate_add]
      rfl
    · obtain ⟨narrow, spaces, found⟩ := rest.column i cell' w' hcell width'
      refine ⟨narrow, spaces, ?_⟩
      have beyond : (padded cell w ++ ' ' :: ' ' :: text).drop (w + 2 + offset (v :: ws) i) =
          text.drop (offset (v :: ws) i) := by
        rw [Nat.add_assoc, ← List.drop_drop, List.drop_left' width, ← List.drop_drop]
        rfl
      rw [offset_cons_succ, beyond, found]
  extent := by
    have length := rest.extent
    simp only [List.length_cons, Nat.add_min_add_right, offset_cons_succ] at length ⊢
    rw [List.length_append, length_padded fits, List.length_cons, List.length_cons, length]
    omega

/-- The cells of a line, filled up. -/
def fullLine (ws : List Nat) (cells : List String) : List Char :=
  joinCells (List.zipWith padded cells ws)

/-- Cells that fit are laid out in their columns. -/
theorem laidOut_fullLine (fits : Fits ws cells) : LaidOut ws cells (fullLine ws cells) := by
  induction cells generalizing ws with
  | nil => exact .nil (.inl rfl)
  | cons cell cells ih =>
    cases ws with
    | nil => exact .nil (.inr rfl)
    | cons w ws =>
      cases cells with
      | nil => exact .last fits.head (.inl rfl)
      | cons next cells =>
        cases ws with
        | nil => exact .last fits.head (.inr rfl)
        | cons v ws => exact .cons fits.head (ih fits.tail)

/-- A line is no longer than all columns together. -/
theorem LaidOut.length_le (h : LaidOut ws cells text) :
    text.length ≤ ws.sum + 2 * (ws.length - 1) := by
  have all := offset_le ws (min cells.length ws.length)
  rw [h.extent]
  cases ws with
  | nil => simp
  | cons w ws =>
    rw [List.length_cons] at all ⊢
    omega

/-! ## Lines -/

theorem mem_joinCells {c : Char} {pieces : List (List Char)} (h : c ∈ joinCells pieces) :
    c = ' ' ∨ ∃ piece ∈ pieces, c ∈ piece := by
  fun_induction joinCells pieces with
  | case1 => cases h
  | case2 piece => exact .inr ⟨piece, List.mem_singleton_self piece, h⟩
  | case3 piece next pieces ih =>
    rcases List.mem_append.1 h with first | gap
    · exact .inr ⟨piece, List.mem_cons_self, first⟩
    · simp only [List.mem_cons] at gap
      rcases gap with space | space | others
      · exact .inl space
      · exact .inl space
      · exact (ih others).imp_right fun ⟨other, inside, hc⟩ =>
          ⟨other, List.mem_cons_of_mem piece inside, hc⟩

theorem mem_fullLine {c : Char} (h : c ∈ fullLine ws cells) :
    c = ' ' ∨ ∃ cell ∈ cells, c ∈ cell.toList := by
  rcases mem_joinCells h with space | ⟨piece, inside, hc⟩
  · exact .inl space
  · rw [← List.map_uncurry_zip_eq_zipWith, List.mem_map] at inside
    obtain ⟨⟨cell, w⟩, pair, rfl⟩ := inside
    rcases List.mem_append.1 hc with hc | space
    · exact .inr ⟨cell, (List.of_mem_zip pair).1, hc⟩
    · exact .inl (List.eq_of_mem_replicate space)

/-- A line whose cells stand in their columns once the white space that was removed at its end is
put back. -/
def Aligned (ws : List Nat) (cells : List String) (text : String) : Prop :=
  ∃ blanks, LaidOut ws cells (text.toList ++ blanks) ∧
    (∀ c ∈ blanks, Text.isBlank c = true) ∧ text.toList.getLast?.any Text.isBlank = false

theorem aligned_line (fits : Fits ws cells) : Aligned ws cells (line ws cells) := by
  obtain ⟨blanks, whole, blank⟩ := Text.exists_trimEnd_append (fullLine ws cells)
  have kept : (line ws cells).toList = Text.trimEnd (fullLine ws cells) := String.toList_ofList
  refine ⟨blanks, ?_, blank, ?_⟩
  · rw [kept, ← whole]
    exact laidOut_fullLine fits
  · rw [kept]
    exact Text.getLast?_trimEnd _

theorem Aligned.length_le {line : String} (h : Aligned ws cells line) :
    line.length ≤ ws.sum + 2 * (ws.length - 1) := by
  obtain ⟨blanks, laidOut, _⟩ := h
  have all := laidOut.length_le
  rw [List.length_append, String.length_toList] at all
  omega

theorem toList_rule (ws : List Nat) :
    (rule ws).toList = List.replicate (ws.sum + 2 * (ws.length - 1)) '-' := String.toList_ofList

/-- Cells without line ends make lines without line ends. -/
theorem break_not_mem_line (unbroken : ∀ cell ∈ cells, '\n' ∉ cell.toList) :
    '\n' ∉ (line ws cells).toList := by
  intro inside
  obtain ⟨blanks, whole, _⟩ := Text.exists_trimEnd_append (fullLine ws cells)
  rw [line, String.toList_ofList] at inside
  have full : '\n' ∈ fullLine ws cells := by
    rw [whole]
    exact List.mem_append_left blanks inside
  rcases mem_fullLine full with space | ⟨cell, hcell, broken⟩
  · cases space
  · exact unbroken cell hcell broken

/-- A table is read back line by line. -/
theorem splitString_render {headers : List String} {rows : List (List String)}
    (unbroken : ∀ cells ∈ headers :: rows, ∀ cell ∈ cells, '\n' ∉ cell.toList) :
    Text.splitString '\n' (render headers rows) = lines headers rows := by
  refine Text.splitString_joinWith_of_not_mem rfl (List.cons_ne_nil _ _) ?_
  obtain ⟨top, body⟩ := List.forall_mem_cons.1 unbroken
  refine List.forall_mem_cons.2 ⟨break_not_mem_line top, List.forall_mem_cons.2 ⟨?_, ?_⟩⟩
  · rw [toList_rule]
    intro inside
    cases List.eq_of_mem_replicate inside
  · intro text inside
    obtain ⟨row, hrow, rfl⟩ := List.mem_map.1 inside
    exact break_not_mem_line (body row hrow)

/-- A table has a line of headers, a line of dashes and a line for each row. There are widths of
the columns, the same for all lines, such that each cell of the headers and of a row that has a
header stands whole at the offset of its column, with nothing but spaces between it and the next
column, up to white space at the end of the line. There are as many dashes as all columns take with
two spaces between them (none without columns), and no line is longer. -/
theorem columns_aligned (headers : List String) (rows : List (List String))
    (unbroken : ∀ cells ∈ headers :: rows, ∀ cell ∈ cells, '\n' ∉ cell.toList) :
    ∃ (ws : List Nat) (top dashes : String) (body : List String),
      Text.splitString '\n' (render headers rows) = top :: dashes :: body ∧
      body.length = rows.length ∧ ws.length = headers.length ∧
      Aligned ws headers top ∧ List.Forall₂ (Aligned ws) rows body ∧
      dashes.toList = List.replicate (ws.sum + 2 * (headers.length - 1)) '-' ∧
      ∀ text ∈ top :: body, text.length ≤ dashes.length := by
  have columns := length_widths headers rows
  refine ⟨widths headers rows, _, _, _, splitString_render unbroken, List.length_map _, columns,
    aligned_line (fits_widths List.mem_cons_self), ?_, ?_, ?_⟩
  · rw [List.forall₂_map_right_iff, List.forall₂_same]
    exact fun row hrow => aligned_line (fits_widths (List.mem_cons_of_mem headers hrow))
  · rw [toList_rule, columns]
  · have full : (rule (widths headers rows)).length =
        (widths headers rows).sum + 2 * ((widths headers rows).length - 1) := by
      rw [← String.length_toList, toList_rule, List.length_replicate]
    intro text inside
    rw [full]
    rcases List.mem_cons.1 inside with rfl | inside
    · exact (aligned_line (fits_widths List.mem_cons_self)).length_le
    · obtain ⟨row, hrow, rfl⟩ := List.mem_map.1 inside
      exact (aligned_line (fits_widths (List.mem_cons_of_mem headers hrow))).length_le

/-- A cell whose characters take more than a byte, a row that is too long, one that is too short
and one without cells. -/
theorem ragged_rows_aligned :
    let headers := ["Zone", "Type"]
    let rows := [["zürich", "vlan", "pve"], ["z1"], []]
    (∀ cells ∈ headers :: rows, ∀ cell ∈ cells, '\n' ∉ cell.toList) ∧
      ∃ ws : List Nat, ws.length = 2 ∧ ws.sum = 11 ∧
        Text.splitString '\n' (render headers rows) =
          ["Zone     Type", "-------------", "zürich   vlan", "z1", ""] ∧
        Aligned ws headers "Zone     Type" ∧
        List.Forall₂ (Aligned ws) rows ["zürich   vlan", "z1", ""] := by
  intro headers rows
  have unbroken : ∀ cells ∈ headers :: rows, ∀ cell ∈ cells, '\n' ∉ cell.toList := by decide
  have printed : Text.splitString '\n' (render headers rows) =
      ["Zone     Type", "-------------", "zürich   vlan", "z1", ""] := by decide
  obtain ⟨ws, top, dashes, body, read, _, columns, aligned, below, drawn, _⟩ :=
    columns_aligned headers rows unbroken
  rw [printed] at read
  cases read
  have total := congrArg List.length drawn
  rw [List.length_replicate] at total
  exact ⟨unbroken, ws, columns, by simpa [headers] using total, printed, aligned, below⟩

end Table
end SdnZones
