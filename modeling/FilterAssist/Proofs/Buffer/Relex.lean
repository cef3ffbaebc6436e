import FilterAssist.Buffer
import FilterAssist.Proofs.Text.Pieces

set_option autoImplicit false

/-!
Editing agrees with lexing from scratch: after any history of edits the rows are those that lexing
the lines from the start gives, although an edit stops lexing as soon as a line ends as before.
-/
namespace FilterAssist

inductive Edit where
  | setText (text : Text)
  | setLine (line : Nat) (text : Text)
  | replaceLines (range : LineRange) (texts : List Text)
deriving DecidableEq, Repr

def Buffer.edit (buffer : Buffer) : Edit → Buffer
  | .setText text => buffer.setText text
  | .setLine line text => (buffer.setLine line text).1
  | .replaceLines range texts => (buffer.replaceLines range texts).1

def Buffer.editAll (buffer : Buffer) (edits : List Edit) : Buffer :=
  edits.foldl Buffer.edit buffer

def Buffer.tokens (buffer : Buffer) : List (List Token) :=
  buffer.rows.map BufferLine.tokens

def LineRange.clip (range : LineRange) (count : Nat) : LineRange :=
  ⟨min range.start (min range.stop count), min range.stop count⟩

def spliceLines (lines : List Text) (range : LineRange) (texts : List Text) : List Text :=
  let clipped := range.clip lines.length
  match lines.take clipped.start ++ texts ++ lines.drop clipped.stop with
  | [] => [[]]
  | spliced => spliced

def Edit.onLines (lines : List Text) : Edit → List Text
  | .setText text => splitLines text
  | .setLine line text => spliceLines lines ⟨line, line + 1⟩ [text]
  | .replaceLines range texts => spliceLines lines range texts

def Lexed (lexer : Lexer) (state : LexState) (rows : List BufferLine) : Prop :=
  rows = lexRows lexer state (rows.map BufferLine.text)

structure Buffer.Fresh (buffer : Buffer) : Prop where
  filled : buffer.rows ≠ []
  lexed : Lexed buffer.lexer .start buffer.rows

theorem state_after_cons (state : LexState) (row : BufferLine) (rows : List BufferLine) :
    stateAfterRows state (row :: rows) = stateAfterRows row.after rows := by
  rw [stateAfterRows, stateAfterRows, List.getLast?_cons, Option.map_some, Option.getD_some]
  cases rows.getLast? <;> rfl

theorem lex_rows_texts (lexer : Lexer) (state : LexState) (texts : List Text) :
    (lexRows lexer state texts).map BufferLine.text = texts := by
  induction texts generalizing state with
  | nil => rfl
  | cons text texts ih =>
      rw [lexRows, List.map_cons, ih]
      rfl

theorem lex_rows_lexed (lexer : Lexer) (state : LexState) (texts : List Text) :
    Lexed lexer state (lexRows lexer state texts) := by
  rw [Lexed, lex_rows_texts]

theorem lexed_cons (lexer : Lexer) (state : LexState) (row : BufferLine) (rows : List BufferLine) :
    Lexed lexer state (row :: rows) ↔ row = BufferLine.lex lexer state row.text ∧ Lexed lexer row.after rows := by
  rw [Lexed, List.map_cons, lexRows, List.cons.injEq]
  constructor
  · rintro ⟨head, tail⟩
    rw [← head] at tail
    exact ⟨head, tail⟩
  · rintro ⟨head, tail⟩
    rw [← head]
    exact ⟨rfl, tail⟩

theorem lexed_append (lexer : Lexer) (state : LexState) (above below : List BufferLine) :
    Lexed lexer state (above ++ below) ↔
      Lexed lexer state above ∧ Lexed lexer (stateAfterRows state above) below := by
  induction above generalizing state with
  | nil => simp [Lexed, lexRows, stateAfterRows]
  | cons row rows ih => rw [List.cons_append, lexed_cons, lexed_cons, ih, state_after_cons, and_assoc]

theorem settle_rows_lexed (lexer : Lexer) (state old : LexState) (rows : List BufferLine)
    (lexed : Lexed lexer old rows) : Lexed lexer state (settleRows lexer state rows).1 := by
  -- A line that ends as it ended before is followed by the rows that were there. The old rows need not have
  -- started in the state that the new ones start in.
  induction rows generalizing state old with
  | nil => rfl
  | cons row rows ih =>
      obtain ⟨_, rest⟩ := (lexed_cons lexer old row rows).mp lexed
      by_cases settled : (BufferLine.lex lexer state row.text).after = row.after
      · rw [settleRows, if_pos settled]
        exact (lexed_cons lexer state _ rows).mpr ⟨rfl, by rwa [settled]⟩
      · rw [settleRows, if_neg settled]
        exact (lexed_cons lexer state _ _).mpr ⟨rfl, ih _ row.after rest⟩

theorem settle_rows_texts (lexer : Lexer) (state : LexState) (rows : List BufferLine) :
    (settleRows lexer state rows).1.map BufferLine.text = rows.map BufferLine.text := by
  induction rows generalizing state with
  | nil => rfl
  | cons row rows ih =>
      by_cases settled : (BufferLine.lex lexer state row.text).after = row.after
      · rw [settleRows, if_pos settled]
        rfl
      · rw [settleRows, if_neg settled, List.map_cons, List.map_cons, ih]
        rfl

-- An edit has three parts: the rows above the range, the new rows, and the rows below it. The rows below are taken
-- over if the new ones lead up to the state they started in, unless no new row was there to lead up to it.
def Buffer.keptRows (buffer : Buffer) (range : LineRange) : List BufferLine :=
  buffer.rows.take (range.clip buffer.rows.length).start

def Buffer.laterRows (buffer : Buffer) (range : LineRange) : List BufferLine :=
  buffer.rows.drop (range.clip buffer.rows.length).stop

def Buffer.newRows (buffer : Buffer) (range : LineRange) (texts : List Text) : List BufferLine :=
  lexRows buffer.lexer (stateAfterRows .start (buffer.keptRows range)) texts

def Buffer.resumedRows (buffer : Buffer) (range : LineRange) (texts : List Text) : List BufferLine × Nat :=
  let reached := stateAfterRows (stateAfterRows .start (buffer.keptRows range)) (buffer.newRows range texts)
  let cached := stateAfterRows .start (buffer.rows.take (range.clip buffer.rows.length).stop)
  if texts ≠ [] ∧ reached = cached then (buffer.laterRows range, 0)
  else settleRows buffer.lexer reached (buffer.laterRows range)

def Buffer.editedRows (buffer : Buffer) (range : LineRange) (texts : List Text) : List BufferLine :=
  buffer.keptRows range ++ buffer.newRows range texts ++ (buffer.resumedRows range texts).1

theorem replace_lines_cases (buffer : Buffer) (range : LineRange) (texts : List Text) :
    (buffer.editedRows range texts = [] ∧
        buffer.replaceLines range texts = (⟨buffer.lexer, [BufferLine.lex buffer.lexer .start []]⟩, ⟨0, 1⟩)) ∨
      (buffer.editedRows range texts ≠ [] ∧
        buffer.replaceLines range texts = (⟨buffer.lexer, buffer.editedRows range texts⟩,
          ⟨(range.clip buffer.rows.length).start,
            (range.clip buffer.rows.length).start + texts.length + (buffer.resumedRows range texts).2⟩)) := by
  cases texts with
  | nil =>
      have edited : buffer.editedRows range [] = buffer.keptRows range ++
          (settleRows buffer.lexer (stateAfterRows .start (buffer.keptRows range)) (buffer.laterRows range)).1 := by
        simp [Buffer.editedRows, Buffer.newRows, Buffer.resumedRows, lexRows, stateAfterRows]
      rw [edited]
      cases rowsEq : buffer.keptRows range ++
          (settleRows buffer.lexer (stateAfterRows .start (buffer.keptRows range)) (buffer.laterRows range)).1 with
      | nil =>
          left
          refine ⟨rfl, ?_⟩
          simp only [Buffer.keptRows, Buffer.laterRows, LineRange.clip] at rowsEq
          simp only [Buffer.replaceLines, rowsEq]
          rfl
      | cons row rows =>
          right
          refine ⟨List.cons_ne_nil row rows, ?_⟩
          simp only [Buffer.keptRows, Buffer.laterRows, LineRange.clip] at rowsEq
          simp only [Buffer.replaceLines, rowsEq]
          simp [Buffer.resumedRows, Buffer.newRows, Buffer.keptRows, Buffer.laterRows, LineRange.clip, lexRows,
            stateAfterRows]
  | cons text texts =>
      right
      refine ⟨by simp [Buffer.editedRows, Buffer.newRows, lexRows], ?_⟩
      by_cases converged :
          stateAfterRows (stateAfterRows .start (buffer.keptRows range)) (buffer.newRows range (text :: texts)) =
            stateAfterRows .start (buffer.rows.take (range.clip buffer.rows.length).stop)
      · have resumed : buffer.resumedRows range (text :: texts) = (buffer.laterRows range, 0) :=
          if_pos ⟨List.cons_ne_nil text texts, converged⟩
        rw [Buffer.editedRows, resumed]
        exact if_pos converged
      · have resumed : buffer.resumedRows range (text :: texts) = settleRows buffer.lexer
            (stateAfterRows (stateAfterRows .start (buffer.keptRows range)) (buffer.newRows range (text :: texts)))
            (buffer.laterRows range) :=
          if_neg (fun both => converged both.2)
        rw [Buffer.editedRows, resumed]
        exact if_neg converged

theorem resumed_rows_lexed (buffer : Buffer) (range : LineRange) (texts : List Text) (fresh : buffer.Fresh) :
    Lexed buffer.lexer
      (stateAfterRows (stateAfterRows .start (buffer.keptRows range)) (buffer.newRows range texts))
      (buffer.resumedRows range texts).1 := by
  have whole : Lexed buffer.lexer .start
      (buffer.rows.take (range.clip buffer.rows.length).stop ++ buffer.laterRows range) := by
    rw [Buffer.laterRows, List.take_append_drop]
    exact fresh.lexed
  have later := ((lexed_append buffer.lexer .start _ _).mp whole).2
  simp only [Buffer.resumedRows]
  split
  · rename_i converged
    rw [converged.2]
    exact later
  · exact settle_rows_lexed buffer.lexer _ _ (buffer.laterRows range) later

theorem edited_rows_lexed (buffer : Buffer) (range : LineRange) (texts : List Text) (fresh : buffer.Fresh) :
    Lexed buffer.lexer .start (buffer.editedRows range texts) := by
  have whole : Lexed buffer.lexer .start
      (buffer.keptRows range ++ buffer.rows.drop (range.clip buffer.rows.length).start) := by
    rw [Buffer.keptRows, List.take_append_drop]
    exact fresh.lexed
  have kept := ((lexed_append buffer.lexer .start _ _).mp whole).1
  have resumed := resumed_rows_lexed buffer range texts fresh
  rw [Buffer.editedRows, List.append_assoc]
  refine (lexed_append buffer.lexer .start _ _).mpr ⟨kept, ?_⟩
  exact (lexed_append buffer.lexer _ _ _).mpr ⟨lex_rows_lexed buffer.lexer _ texts, resumed⟩

theorem resumed_rows_texts (buffer : Buffer) (range : LineRange) (texts : List Text) :
    (buffer.resumedRows range texts).1.map BufferLine.text = (buffer.laterRows range).map BufferLine.text := by
  simp only [Buffer.resumedRows]
  split
  · rfl
  · exact settle_rows_texts buffer.lexer _ (buffer.laterRows range)

theorem edited_rows_texts (buffer : Buffer) (range : LineRange) (texts : List Text) :
    (buffer.editedRows range texts).map BufferLine.text =
      buffer.lines.take (range.clip buffer.lines.length).start ++ texts ++
        buffer.lines.drop (range.clip buffer.lines.length).stop := by
  rw [Buffer.editedRows, List.map_append, List.map_append, resumed_rows_texts, Buffer.newRows, lex_rows_texts]
  simp only [Buffer.keptRows, Buffer.laterRows, Buffer.lines, List.map_take, List.map_drop, List.length_map]

theorem replace_lines_fresh (buffer : Buffer) (range : LineRange) (texts : List Text) (fresh : buffer.Fresh) :
    (buffer.replaceLines range texts).1.Fresh := by
  rcases replace_lines_cases buffer range texts with ⟨_, result⟩ | ⟨filled, result⟩
  · rw [result]
    exact ⟨List.cons_ne_nil _ _, lex_rows_lexed buffer.lexer .start [[]]⟩
  · rw [result]
    exact ⟨filled, edited_rows_lexed buffer range texts fresh⟩

theorem replace_lines_lines (buffer : Buffer) (range : LineRange) (texts : List Text) :
    (buffer.replaceLines range texts).1.lines = spliceLines buffer.lines range texts := by
  have content := edited_rows_texts buffer range texts
  rcases replace_lines_cases buffer range texts with ⟨empty, result⟩ | ⟨filled, result⟩
  · rw [empty, List.map_nil] at content
    rw [result]
    simp only [spliceLines, ← content]
    rfl
  · rw [result]
    simp only [spliceLines, ← content]
    split
    · rename_i empty
      exact absurd (List.map_eq_nil_iff.mp empty) filled
    · rfl

theorem replace_lines_lexer (buffer : Buffer) (range : LineRange) (texts : List Text) :
    (buffer.replaceLines range texts).1.lexer = buffer.lexer := by
  rcases replace_lines_cases buffer range texts with ⟨_, result⟩ | ⟨_, result⟩ <;> rw [result]

theorem of_text_fresh (lexer : Lexer) (text : Text) : (Buffer.ofText lexer text).Fresh := by
  refine ⟨?_, lex_rows_lexed lexer .start (splitLines text)⟩
  intro empty
  have none := congrArg (List.map BufferLine.text) empty
  rw [Buffer.ofText, lex_rows_texts, List.map_nil, splitLines, List.map_eq_nil_iff] at none
  exact split_on_filled '\n' text none

theorem of_text_lines (lexer : Lexer) (text : Text) : (Buffer.ofText lexer text).lines = splitLines text :=
  lex_rows_texts lexer .start (splitLines text)

theorem edit_fresh (buffer : Buffer) (edit : Edit) (fresh : buffer.Fresh) : (buffer.edit edit).Fresh := by
  cases edit with
  | setText text => exact of_text_fresh buffer.lexer text
  | setLine line text => exact replace_lines_fresh buffer ⟨line, line + 1⟩ [text] fresh
  | replaceLines range texts => exact replace_lines_fresh buffer range texts fresh

theorem edit_lines (buffer : Buffer) (edit : Edit) : (buffer.edit edit).lines = edit.onLines buffer.lines := by
  cases edit with
  | setText text => exact of_text_lines buffer.lexer text
  | setLine line text => exact replace_lines_lines buffer ⟨line, line + 1⟩ [text]
  | replaceLines range texts => exact replace_lines_lines buffer range texts

theorem edit_lexer (buffer : Buffer) (edit : Edit) : (buffer.edit edit).lexer = buffer.lexer := by
  cases edit with
  | setText text => rfl
  | setLine line text => exact replace_lines_lexer buffer ⟨line, line + 1⟩ [text]
  | replaceLines range texts => exact replace_lines_lexer buffer range texts

theorem edit_all_fresh (buffer : Buffer) (edits : List Edit) (fresh : buffer.Fresh) :
    (buffer.editAll edits).Fresh := by
  induction edits generalizing buffer with
  | nil => exact fresh
  | cons edit edits ih => exact ih (buffer.edit edit) (edit_fresh buffer edit fresh)

theorem edit_all_lines (buffer : Buffer) (edits : List Edit) :
    (buffer.editAll edits).lines = edits.foldl Edit.onLines buffer.lines := by
  induction edits generalizing buffer with
  | nil => rfl
  | cons edit edits ih =>
      rw [List.foldl_cons, ← edit_lines]
      exact ih (buffer.edit edit)

theorem edit_all_lexer (buffer : Buffer) (edits : List Edit) : (buffer.editAll edits).lexer = buffer.lexer := by
  induction edits generalizing buffer with
  | nil => rfl
  | cons edit edits ih => exact (ih (buffer.edit edit)).trans (edit_lexer buffer edit)

-- A line that cutting up a text can give: it has no line feed, and no carriage return at its end, since cutting
-- takes one off there.
def Unbroken (line : Text) : Prop :=
  '\n' ∉ line ∧ line.getLast? ≠ some '\r'

instance (line : Text) : Decidable (Unbroken line) :=
  inferInstanceAs (Decidable (_ ∧ _))

theorem split_lines_join (lines : List Text) (filled : lines ≠ []) (unbroken : ∀ line ∈ lines, Unbroken line) :
    splitLines (Text.joinWith ['\n'] lines) = lines := by
  have pieces := split_on_join '\n' lines filled (fun line member => (unbroken line member).1)
  have kept : ∀ line ∈ lines, (if line.getLast? = some '\r' then line.dropLast else line) = line := by
    intro line member
    exact if_neg (unbroken line member).2
  rw [splitLines, pieces, List.map_congr_left kept, List.map_id']

theorem fresh_reopened (buffer : Buffer) (fresh : buffer.Fresh) (unbroken : ∀ line ∈ buffer.lines, Unbroken line) :
    Buffer.ofText buffer.lexer buffer.text = buffer := by
  have filled : buffer.lines ≠ [] := fun empty => fresh.filled (List.map_eq_nil_iff.mp empty)
  have rows : lexRows buffer.lexer .start buffer.lines = buffer.rows := fresh.lexed.symm
  rw [Buffer.ofText, Buffer.text, split_lines_join buffer.lines filled unbroken, rows]

theorem lexed_row (lexer : Lexer) (state : LexState) (rows : List BufferLine) (line : Nat) (row : BufferLine)
    (lexed : Lexed lexer state rows) (found : rows[line]? = some row) :
    ∃ before, (state :: rows.map BufferLine.after)[line]? = some before ∧
      row = BufferLine.lex lexer before row.text := by
  induction rows generalizing state line with
  | nil => cases found
  | cons head rows ih =>
      obtain ⟨first, rest⟩ := (lexed_cons lexer state head rows).mp lexed
      cases line with
      | zero =>
          cases found
          exact ⟨state, rfl, first⟩
      | succ line => exact ih head.after line rest found

theorem fresh_line (buffer : Buffer) (fresh : buffer.Fresh) (line : Nat) (content : Text)
    (found : buffer.lines[line]? = some content) :
    ∃ before, buffer.states[line]? = some before ∧
      buffer.tokens[line]? = some (buffer.lexer.lexLine content before).1 ∧
      buffer.states[line + 1]? = some (buffer.lexer.lexLine content before).2.clearPending := by
  rw [Buffer.lines, List.getElem?_map, Option.map_eq_some_iff] at found
  obtain ⟨row, present, rfl⟩ := found
  obtain ⟨before, state, lexed⟩ := lexed_row buffer.lexer .start buffer.rows line row fresh.lexed present
  refine ⟨before, state, ?_, ?_⟩
  · rw [Buffer.tokens, List.getElem?_map, present, Option.map_some]
    exact congrArg (fun row => some row.tokens) lexed
  · rw [Buffer.states, List.getElem?_cons_succ, List.getElem?_map, present, Option.map_some]
    exact congrArg (fun row => some row.after) lexed

theorem edited_buffer_equals_fresh_lex (lexer : Lexer) (text : Text) (edits : List Edit) :
    let buffer := (Buffer.ofText lexer text).editAll edits
    buffer.lines = edits.foldl Edit.onLines (splitLines text) ∧
      buffer.lines ≠ [] ∧
      buffer.states.length = buffer.lines.length + 1 ∧
      buffer.tokens.length = buffer.lines.length ∧
      buffer.states[0]? = some LexState.start ∧
      (∀ line content, buffer.lines[line]? = some content →
        ∃ before, buffer.states[line]? = some before ∧
          buffer.tokens[line]? = some (lexer.lexLine content before).1 ∧
          buffer.states[line + 1]? = some (lexer.lexLine content before).2.clearPending) ∧
      ((∀ line ∈ buffer.lines, Unbroken line) → Buffer.ofText lexer buffer.text = buffer) := by
  intro buffer
  have fresh : buffer.Fresh := edit_all_fresh _ edits (of_text_fresh lexer text)
  have sameLexer : buffer.lexer = lexer := edit_all_lexer (Buffer.ofText lexer text) edits
  have content : buffer.lines = edits.foldl Edit.onLines (splitLines text) := by
    rw [← of_text_lines lexer text]
    exact edit_all_lines (Buffer.ofText lexer text) edits
  refine ⟨content, fun empty => fresh.filled (List.map_eq_nil_iff.mp empty), ?_, ?_, rfl, ?_, ?_⟩
  · simp [Buffer.states, Buffer.lines]
  · simp [Buffer.tokens, Buffer.lines]
  · rw [← sameLexer]
    exact fun line content found => fresh_line buffer fresh line content found
  · rw [← sameLexer]
    exact fresh_reopened buffer fresh

theorem edited_buffer_equals_fresh_lex_under_comment :
    let lexer : Lexer := { vocabulary := Vocabulary.ofLists {} }
    let edits : List Edit := [.replaceLines ⟨0, 9⟩ [], .setText "a\n'b".toList, .replaceLines ⟨1, 1⟩ ["/*".toList],
      .setLine 7 "x".toList, .replaceLines ⟨3, 1⟩ []]
    let buffer := (Buffer.ofText lexer "c".toList).editAll edits
    (buffer.lines[2]? = some "'b".toList ∧ ∀ line ∈ buffer.lines, Unbroken line) ∧
      Buffer.ofText lexer buffer.text = buffer ∧
      ∃ before, buffer.states[2]? = some before ∧
        buffer.tokens[2]? = some (lexer.lexLine "'b".toList before).1 ∧
        buffer.states[3]? = some (lexer.lexLine "'b".toList before).2.clearPending := by
  intro lexer edits buffer
  have equal := edited_buffer_equals_fresh_lex lexer "c".toList edits
  have content : buffer.lines = ["a".toList, "/*".toList, "'b".toList, "x".toList] := equal.1.trans (by decide)
  have third : buffer.lines[2]? = some "'b".toList := by rw [content]; rfl
  have unbroken : ∀ line ∈ buffer.lines, Unbroken line := by rw [content]; decide
  exact ⟨⟨third, unbroken⟩, equal.2.2.2.2.2.2 unbroken, equal.2.2.2.2.2.1 2 _ third⟩

end FilterAssist
