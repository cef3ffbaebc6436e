import Mathlib.Order.Bounds.Defs
import FilterAssist.Csv
import FilterAssist.Proofs.Text.Pieces

set_option autoImplicit false

/-!
Rows that were written are read back. Fields in quotes and bare fields may be mixed within a row, the rows may
end in any one of the line ends, and the last row may end in one or not: the import has the fields of the rows,
as a list where there is one row or one column, and as a table with the width of the widest row elsewhere.
-/
namespace FilterAssist.Csv

structure Cell where
  value : Text
  inQuotes : Bool
  oneLine : '\r' ∉ value ∧ '\n' ∉ value
  plain : inQuotes = false → value ≠ [] ∧ ',' ∉ value ∧ '"' ∉ value

structure Row where
  cells : List Cell
  filled : cells ≠ []

inductive LineEnd where
  | lineFeed
  | carriageReturn
  | both
deriving DecidableEq, Repr

structure Sheet where
  rows : List Row
  filled : rows ≠ []
  ending : LineEnd
  closed : Bool

def doubled (value : Text) : Text :=
  value.replaceChar '"' ['"', '"']

def Cell.written (cell : Cell) : Text :=
  if cell.inQuotes then '"' :: (doubled cell.value ++ ['"']) else cell.value

def Row.values (row : Row) : List Text :=
  row.cells.map Cell.value

def Row.written (row : Row) : Text :=
  Text.joinWith [','] (row.cells.map Cell.written)

def LineEnd.text : LineEnd → Text
  | .lineFeed => ['\n']
  | .carriageReturn => ['\r']
  | .both => ['\r', '\n']

def Sheet.lines (sheet : Sheet) : List Text :=
  sheet.rows.map Row.written

def Sheet.written (sheet : Sheet) : Text :=
  Text.joinWith sheet.ending.text sheet.lines ++ (if sheet.closed then sheet.ending.text else [])

theorem doubled_cons (c : Char) (value : Text) :
    doubled (c :: value) = (if c = '"' then ['"', '"'] else [c]) ++ doubled value :=
  rfl

theorem doubled_mem (value : Text) (c : Char) : c ∈ doubled value ↔ c ∈ value := by
  induction value with
  | nil => rfl
  | cons d value ih =>
      rw [doubled_cons, List.mem_append, ih, List.mem_cons]
      by_cases quote : d = '"' <;> simp [quote]

theorem fields_from_doubled (field value rest : Text) :
    fieldsFrom field .inQuotes (doubled value ++ '"' :: rest) = fieldsFrom (field ++ value) .closing rest := by
  induction value generalizing field with
  | nil => simp [doubled, Text.replaceChar, fieldsFrom]
  | cons c value ih =>
      have later := ih (field ++ [c])
      rw [List.append_assoc, List.singleton_append] at later
      rw [doubled_cons, ← later]
      by_cases quote : c = '"' <;> simp [quote, fieldsFrom]

theorem fields_from_bare (field value rest : Text) (single : ',' ∉ value) (unquoted : '"' ∉ value) :
    fieldsFrom field .bare (value ++ rest) = fieldsFrom (field ++ value) .bare rest := by
  induction value generalizing field with
  | nil => simp
  | cons c value ih =>
      rw [List.mem_cons, not_or] at single unquoted
      have later := ih (field ++ [c]) single.2 unquoted.2
      rw [List.append_assoc, List.singleton_append] at later
      rw [← later]
      simp [fieldsFrom, Ne.symm single.1, Ne.symm unquoted.1]

theorem fields_from_cell (cell : Cell) :
    ∃ place, place ≠ .inQuotes ∧
      ∀ rest, fieldsFrom [] .bare (cell.written ++ rest) = fieldsFrom cell.value place rest := by
  cases style : cell.inQuotes with
  | true =>
      refine ⟨.closing, by simp, fun rest => ?_⟩
      have inside := fields_from_doubled [] cell.value rest
      simpa [Cell.written, style, fieldsFrom, Text.allBlank] using inside
  | false =>
      obtain ⟨_, single, unquoted⟩ := cell.plain style
      refine ⟨.bare, by simp, fun rest => ?_⟩
      have taken := fields_from_bare [] cell.value rest single unquoted
      simpa [Cell.written, style] using taken

theorem fields_from_separator (field rest : Text) (place : Place) (outside : place ≠ .inQuotes) :
    fieldsFrom field place (',' :: rest) = field :: fieldsFrom [] .bare rest := by
  simp [fieldsFrom, outside]

theorem fields_from_cells (cells : List Cell) (filled : cells ≠ []) :
    fieldsFrom [] .bare (Text.joinWith [','] (cells.map Cell.written)) = cells.map Cell.value := by
  induction cells with
  | nil => exact absurd rfl filled
  | cons cell cells ih =>
      obtain ⟨place, outside, read⟩ := fields_from_cell cell
      cases cells with
      | nil =>
          have last := read []
          rw [List.append_nil] at last
          exact last
      | cons next cells =>
          rw [List.map_cons, List.map_cons, join_with_cons, read, List.singleton_append,
            fields_from_separator _ _ place outside, ← List.map_cons, ih (List.cons_ne_nil _ _)]
          rfl

structure Solid (line : Text) : Prop where
  filled : line ≠ []
  noReturn : '\r' ∉ line
  noFeed : '\n' ∉ line

theorem cell_solid (cell : Cell) : Solid cell.written := by
  cases style : cell.inQuotes with
  | true => constructor <;> simp [Cell.written, style, doubled_mem, cell.oneLine]
  | false =>
      rw [Cell.written, style]
      exact ⟨(cell.plain style).1, cell.oneLine.1, cell.oneLine.2⟩

theorem row_solid (row : Row) : Solid row.written := by
  have absent (c : Char) (comma : c ≠ ',') (cells : ∀ cell : Cell, c ∉ cell.written) : c ∉ row.written := by
    intro member
    rcases join_with_mem _ _ c member with between | ⟨piece, present, inside⟩
    · exact comma (List.mem_singleton.mp between)
    · obtain ⟨cell, _, rfl⟩ := List.mem_map.mp present
      exact cells cell inside
  refine ⟨?_, absent '\r' (by decide) fun cell => (cell_solid cell).noReturn,
    absent '\n' (by decide) fun cell => (cell_solid cell).noFeed⟩
  obtain ⟨cell, cells, shape⟩ := List.exists_cons_of_ne_nil row.filled
  have head := (cell_solid cell).filled
  cases cells with
  | nil => simpa [Row.written, shape, Text.joinWith] using head
  | cons next cells => simp [Row.written, shape, join_with_cons, head]

theorem fields_row (row : Row) : fields row.written = row.values := by
  rw [fields, if_neg (row_solid row).filled]
  exact fields_from_cells row.cells row.filled

theorem unify_line (line rest : Text) (noReturn : '\r' ∉ line) :
    unifyLineEnds (line ++ rest) = line ++ unifyLineEnds rest := by
  induction line with
  | nil => rfl
  | cons c line ih =>
      rw [List.mem_cons, not_or] at noReturn
      obtain ⟨other, later⟩ := noReturn
      rw [List.cons_append, unifyLineEnds, if_neg (Ne.symm other), ih later, List.cons_append]
      exact fun _ same => absurd same.symm other

theorem unify_ending (ending : LineEnd) (rest : Text) (apart : rest.head? ≠ some '\n') :
    unifyLineEnds (ending.text ++ rest) = '\n' :: unifyLineEnds rest := by
  cases ending with
  | lineFeed => exact unify_line ['\n'] rest (by decide)
  | carriageReturn =>
      rw [LineEnd.text, List.singleton_append, unifyLineEnds, if_pos rfl]
      rintro later _ rfl
      exact apart rfl
  | both => rw [LineEnd.text, List.cons_append, List.singleton_append, unifyLineEnds]

theorem unify_lines (ending : LineEnd) (lines : List Text) (tail : Text) (solid : ∀ line ∈ lines, Solid line) :
    unifyLineEnds (Text.joinWith ending.text lines ++ tail) =
      Text.joinWith ['\n'] lines ++ unifyLineEnds tail := by
  induction lines with
  | nil => rfl
  | cons line lines ih =>
      have here := solid line List.mem_cons_self
      have below := ih fun other member => solid other (List.mem_cons_of_mem line member)
      cases lines with
      | nil => exact unify_line line tail here.noReturn
      | cons next lines =>
          -- The next line is not empty, so a carriage return before it stays a line end of its own.
          have apart : (Text.joinWith ending.text (next :: lines) ++ tail).head? ≠ some '\n' := by
            have after := solid next (List.mem_cons_of_mem line List.mem_cons_self)
            obtain ⟨c, rest, shape⟩ := List.exists_cons_of_ne_nil after.filled
            have other : c ≠ '\n' := by
              intro same
              exact after.noFeed (by simp [shape, same])
            cases lines with
            | nil => simpa [Text.joinWith, shape] using other
            | cons second lines => simpa [join_with_cons, shape] using other
          rw [join_with_cons, join_with_cons, List.append_assoc, List.append_assoc, unify_line _ _ here.noReturn,
            unify_ending ending _ apart, below]
          simp

theorem records_written (sheet : Sheet) : records sheet.written = sheet.lines := by
  have solid : ∀ line ∈ sheet.lines, Solid line := by
    intro line member
    obtain ⟨row, _, rfl⟩ := List.mem_map.mp member
    exact row_solid row
  have filled : sheet.lines ≠ [] := fun empty => sheet.filled (List.map_eq_nil_iff.mp empty)
  have unified := unify_lines sheet.ending sheet.lines (if sheet.closed then sheet.ending.text else []) solid
  rw [records, Sheet.written, unified]
  cases closed : sheet.closed with
  | true =>
      have tail : unifyLineEnds sheet.ending.text = ['\n'] := by
        have whole := unify_ending sheet.ending [] (by simp)
        rwa [List.append_nil] at whole
      have cut := split_on_join '\n' (sheet.lines ++ [[]]) (by simp) (by
        intro piece member
        rcases List.mem_append.mp member with line | last
        · exact (solid piece line).noFeed
        · simp [List.mem_singleton.mp last])
      rw [join_with_snoc_empty _ _ filled] at cut
      have many : 0 < sheet.lines.length := List.length_pos_iff.mpr filled
      simp [tail, cut, many]
  | false =>
      have cut := split_on_join '\n' sheet.lines filled fun line member => (solid line member).noFeed
      have last : sheet.lines.getLast? ≠ some [] := by
        intro empty
        exact (solid [] (List.mem_of_getLast? empty)).filled rfl
      simp [unifyLineEnds, cut, last]

theorem widest_from (rows : List (List Text)) (start : Nat) :
    start ≤ rows.foldl (fun width row => max width row.length) start ∧
      (∀ row ∈ rows, row.length ≤ rows.foldl (fun width row => max width row.length) start) ∧
      (rows.foldl (fun width row => max width row.length) start = start ∨
        ∃ row ∈ rows, row.length = rows.foldl (fun width row => max width row.length) start) := by
  induction rows generalizing start with
  | nil => simp
  | cons row rows ih =>
      obtain ⟨grows, bound, reached⟩ := ih (max start row.length)
      rw [List.foldl_cons]
      refine ⟨by omega, ?_, ?_⟩
      · intro other member
        rcases List.mem_cons.mp member with rfl | later
        · omega
        · exact bound other later
      · rcases reached with same | ⟨other, later, same⟩
        · by_cases wide : start ≤ row.length
          · exact .inr ⟨row, List.mem_cons_self, by omega⟩
          · exact .inl (by omega)
        · exact .inr ⟨other, List.mem_cons_of_mem row later, same⟩

def Sheet.widths (sheet : Sheet) : Set Nat :=
  { width | ∃ row ∈ sheet.rows, row.cells.length = width }

theorem row_length (row : Row) : row.values.length = row.cells.length :=
  List.length_map ..

theorem widest_sheet (sheet : Sheet) : IsGreatest sheet.widths (widest (sheet.rows.map Row.values)) := by
  obtain ⟨least, bound, reached⟩ := widest_from (sheet.rows.map Row.values) 1
  rw [← widest] at least bound reached
  have within (row : Row) (member : row ∈ sheet.rows) :
      row.cells.length ≤ widest (sheet.rows.map Row.values) := by
    rw [← row_length]
    exact bound row.values (List.mem_map_of_mem member)
  constructor
  · rcases reached with one | ⟨values, member, same⟩
    · -- No row is wider than one field, and every row has a field.
      obtain ⟨row, rows, shape⟩ := List.exists_cons_of_ne_nil sheet.filled
      have member : row ∈ sheet.rows := by simp [shape]
      have some := List.length_pos_iff.mpr row.filled
      have most := within row member
      exact ⟨row, member, by omega⟩
    · obtain ⟨row, present, rfl⟩ := List.mem_map.mp member
      exact ⟨row, present, by rw [← same, row_length]⟩
  · rintro width ⟨row, member, rfl⟩
    exact within row member

theorem parse_written (sheet : Sheet) :
    parse sheet.written =
      if sheet.rows.length = 1 ∨ widest (sheet.rows.map Row.values) = 1 then
        .list (sheet.rows.map Row.values).flatten
      else .table (sheet.rows.map Row.values) (widest (sheet.rows.map Row.values)) := by
  have values : sheet.lines.map fields = sheet.rows.map Row.values := by
    rw [Sheet.lines, List.map_map]
    exact List.map_congr_left fun row _ => fields_row row
  rw [parse, records_written]
  split
  · rename_i record single
    have alone : sheet.rows.length = 1 := by
      have length := congrArg List.length single
      rwa [Sheet.lines, List.length_map] at length
    rw [single] at values
    simp [alone, ← values]
  · rename_i several
    have more : sheet.rows.length ≠ 1 := by
      intro alone
      obtain ⟨row, shape⟩ := List.length_eq_one_iff.mp alone
      exact several row.written (by simp [Sheet.lines, shape])
    simp [values, more]

theorem written_rows_read_back (sheet : Sheet) :
    (∀ row, sheet.rows = [row] → parse sheet.written = .list row.values) ∧
      ((∀ row ∈ sheet.rows, row.cells.length = 1) → parse sheet.written = .list (sheet.rows.flatMap Row.values)) ∧
      (sheet.rows.length ≠ 1 → (∃ row ∈ sheet.rows, row.cells.length ≠ 1) →
        ∃ columns, IsGreatest sheet.widths columns ∧
          parse sheet.written = .table (sheet.rows.map Row.values) columns) := by
  obtain ⟨⟨widestRow, present, width⟩, bound⟩ := widest_sheet sheet
  refine ⟨?_, ?_, ?_⟩
  · intro row single
    simp [parse_written, single]
  · intro narrow
    have one : widest (sheet.rows.map Row.values) = 1 := width.symm.trans (narrow widestRow present)
    rw [parse_written, if_pos (.inr one), List.flatMap_def]
  · rintro several ⟨row, member, wide⟩
    have some := List.length_pos_iff.mpr row.filled
    have most := bound ⟨row, member, rfl⟩
    refine ⟨_, widest_sheet sheet, ?_⟩
    rw [parse_written, if_neg (by omega)]

theorem written_rows_read_back_as_table :
    let sheet : Sheet :=
      ⟨[⟨[⟨['a'], false, by decide, by decide⟩, ⟨[',', '"'], true, by decide, by decide⟩], by simp⟩,
        ⟨[⟨[], true, by decide, by decide⟩], by simp⟩], by simp, .both, true⟩
    sheet.written = "a,\",\"\"\"\r\n\"\"\r\n".toList ∧
      sheet.rows.length ≠ 1 ∧ (∃ row ∈ sheet.rows, row.cells.length ≠ 1) ∧
      ∃ columns, IsGreatest sheet.widths columns ∧ parse sheet.written = .table [[['a'], [',', '"']], [[]]] columns := by
  intro sheet
  have several : sheet.rows.length ≠ 1 := by simp [sheet]
  have wide : ∃ row ∈ sheet.rows, row.cells.length ≠ 1 := by simp [sheet]
  exact ⟨rfl, several, wide, (written_rows_read_back sheet).2.2 several wide⟩

end FilterAssist.Csv
