import FilterAssist.Proofs.Buffer.Relex

set_option autoImplicit false

/-!
What an edit leaves alone. It reports the range of lines that it lexed; above that range every row is
in its place, and below it every row is an old one, moved by the change in the number of lines.
-/
namespace FilterAssist

-- The rows before the range stay where they are, and the rows after it are the old ones from `resumed` on.
structure Relexed (old new : List BufferLine) (range : LineRange) (resumed : Nat) : Prop where
  reached : 0 < range.stop
  above : ∀ line, line < range.start → new[line]? = old[line]?
  below : ∀ offset, new[range.stop + offset]? = old[resumed + offset]?
  count : new.length + resumed = old.length + range.stop

theorem settle_rows_suffix (lexer : Lexer) (state : LexState) (rows : List BufferLine) :
    ∃ relexed, (settleRows lexer state rows).1 = relexed ++ rows.drop (settleRows lexer state rows).2 ∧
      relexed.length = (settleRows lexer state rows).2 ∧ (settleRows lexer state rows).2 ≤ rows.length := by
  induction rows generalizing state with
  | nil => exact ⟨[], rfl, rfl, Nat.le_refl 0⟩
  | cons row rows ih =>
      by_cases settled : (BufferLine.lex lexer state row.text).after = row.after
      · rw [settleRows, if_pos settled]
        exact ⟨[BufferLine.lex lexer state row.text], rfl, rfl, Nat.le_add_left 1 rows.length⟩
      · rw [settleRows, if_neg settled]
        obtain ⟨relexed, parts, count, bound⟩ := ih (BufferLine.lex lexer state row.text).after
        refine ⟨BufferLine.lex lexer state row.text :: relexed, ?_, ?_, Nat.succ_le_succ bound⟩
        · rw [List.drop_succ_cons, List.cons_append, ← parts]
        · rw [List.length_cons, count]

theorem settle_rows_progress (lexer : Lexer) (state : LexState) (rows : List BufferLine) (filled : rows ≠ []) :
    0 < (settleRows lexer state rows).2 := by
  cases rows with
  | nil => exact absurd rfl filled
  | cons row rows =>
      rw [settleRows]
      dsimp only
      split <;> exact Nat.succ_pos _

theorem resumed_rows_suffix (buffer : Buffer) (range : LineRange) (texts : List Text) :
    ∃ relexed, (buffer.resumedRows range texts).1 =
        relexed ++ (buffer.laterRows range).drop (buffer.resumedRows range texts).2 ∧
      relexed.length = (buffer.resumedRows range texts).2 ∧
      (buffer.resumedRows range texts).2 ≤ (buffer.laterRows range).length := by
  simp only [Buffer.resumedRows]
  split
  · exact ⟨[], rfl, rfl, Nat.zero_le _⟩
  · exact settle_rows_suffix buffer.lexer _ (buffer.laterRows range)

theorem resumed_rows_progress (buffer : Buffer) (range : LineRange) (filled : buffer.laterRows range ≠ []) :
    0 < (buffer.resumedRows range []).2 := by
  simp only [Buffer.resumedRows]
  rw [if_neg (fun both => both.1 rfl)]
  exact settle_rows_progress buffer.lexer _ _ filled

theorem edited_range_reached (buffer : Buffer) (range : LineRange) (texts : List Text)
    (filled : buffer.editedRows range texts ≠ []) :
    0 < (range.clip buffer.rows.length).start + texts.length + (buffer.resumedRows range texts).2 := by
  cases texts with
  | cons text texts =>
      rw [List.length_cons]
      omega
  | nil =>
      by_cases more : buffer.laterRows range = []
      · -- Nothing new and nothing below, so a row above is what keeps the document from being empty.
        have kept : buffer.keptRows range ≠ [] := by
          intro empty
          apply filled
          simp [Buffer.editedRows, empty, Buffer.newRows, lexRows, Buffer.resumedRows, more, settleRows]
        have taken := List.length_pos_iff.mpr kept
        rw [Buffer.keptRows, List.length_take] at taken
        omega
      · have progress := resumed_rows_progress buffer range more
        omega

theorem edited_rows_parts (buffer : Buffer) (range : LineRange) (texts : List Text) :
    ∃ lexed, buffer.editedRows range texts = buffer.keptRows range ++ lexed ++
        buffer.rows.drop ((range.clip buffer.rows.length).stop + (buffer.resumedRows range texts).2) ∧
      lexed.length = texts.length + (buffer.resumedRows range texts).2 ∧
      (range.clip buffer.rows.length).stop + (buffer.resumedRows range texts).2 ≤ buffer.rows.length := by
  obtain ⟨relexed, parts, size, bound⟩ := resumed_rows_suffix buffer range texts
  have inside : (range.clip buffer.rows.length).stop ≤ buffer.rows.length := Nat.min_le_right _ _
  refine ⟨buffer.newRows range texts ++ relexed, ?_, ?_, ?_⟩
  · rw [Buffer.editedRows, parts, Buffer.laterRows, List.drop_drop, List.append_assoc, List.append_assoc,
      List.append_assoc]
  · rw [List.length_append, size, Buffer.newRows, ← List.length_map BufferLine.text, lex_rows_texts]
  · rw [Buffer.laterRows, List.length_drop] at bound
    omega

theorem kept_rows_length (buffer : Buffer) (range : LineRange) :
    (buffer.keptRows range).length = (range.clip buffer.rows.length).start := by
  have ordered : (range.clip buffer.rows.length).start ≤ (range.clip buffer.rows.length).stop := Nat.min_le_right _ _
  have inside : (range.clip buffer.rows.length).stop ≤ buffer.rows.length := Nat.min_le_right _ _
  rw [Buffer.keptRows, List.length_take]
  omega

theorem replace_lines_filled (buffer : Buffer) (range : LineRange) (texts : List Text) (filled : texts ≠ []) :
    buffer.replaceLines range texts = (⟨buffer.lexer, buffer.editedRows range texts⟩,
      ⟨(range.clip buffer.rows.length).start,
        (range.clip buffer.rows.length).start + texts.length + (buffer.resumedRows range texts).2⟩) := by
  rcases replace_lines_cases buffer range texts with ⟨empty, _⟩ | ⟨_, result⟩
  · have content := edited_rows_texts buffer range texts
    rw [empty] at content
    have none := (List.append_eq_nil_iff.mp content.symm).1
    exact absurd (List.append_eq_nil_iff.mp none).2 filled
  · exact result

theorem replace_lines_count (buffer : Buffer) (range : LineRange) (texts : List Text) (filled : texts ≠ []) :
    (buffer.replaceLines range texts).1.rows.length + (range.clip buffer.rows.length).stop =
      buffer.rows.length + (range.clip buffer.rows.length).start + texts.length := by
  have kept := kept_rows_length buffer range
  obtain ⟨lexed, rows, size, bound⟩ := edited_rows_parts buffer range texts
  rw [replace_lines_filled buffer range texts filled]
  dsimp only
  rw [rows, List.length_append, List.length_append, List.length_drop, kept, size]
  omega

theorem replace_lines_relexed (buffer : Buffer) (range : LineRange) (texts : List Text) :
    ∃ resumed, Relexed buffer.rows (buffer.replaceLines range texts).1.rows (buffer.replaceLines range texts).2
      resumed := by
  rcases replace_lines_cases buffer range texts with ⟨_, result⟩ | ⟨filled, result⟩
  · rw [result]
    refine ⟨buffer.rows.length, Nat.one_pos, fun line outside => absurd outside (Nat.not_lt_zero line), ?_, ?_⟩
    · intro offset
      rw [List.getElem?_eq_none (by simp), List.getElem?_eq_none (Nat.le_add_right _ _)]
    · exact Nat.add_comm _ _
  · rw [result]
    have reached := edited_range_reached buffer range texts filled
    have kept := kept_rows_length buffer range
    obtain ⟨lexed, rows, size, bound⟩ := edited_rows_parts buffer range texts
    have width : (buffer.keptRows range ++ lexed).length =
        (range.clip buffer.rows.length).start + texts.length + (buffer.resumedRows range texts).2 := by
      rw [List.length_append, kept, size, Nat.add_assoc]
    refine ⟨(range.clip buffer.rows.length).stop + (buffer.resumedRows range texts).2, reached, ?_, ?_, ?_⟩
    · intro line outside
      dsimp only at outside ⊢
      rw [rows, List.append_assoc, List.getElem?_append_left (by omega), Buffer.keptRows,
        List.getElem?_take_of_lt outside]
    · intro offset
      dsimp only
      rw [rows, ← width, List.getElem?_append_right (Nat.le_add_right _ _), Nat.add_sub_cancel_left,
        List.getElem?_drop]
    · dsimp only
      rw [rows, List.length_append, width, List.length_drop]
      omega

theorem set_line_rows (buffer : Buffer) (line : Nat) (text : Text) (inside : line < buffer.rows.length) :
    ∃ below, (buffer.setLine line text).1.rows = buffer.rows.take line ++
      BufferLine.lex buffer.lexer (stateAfterRows .start (buffer.rows.take line)) text :: below := by
  have clipped : LineRange.clip ⟨line, line + 1⟩ buffer.rows.length = ⟨line, line + 1⟩ := by
    rw [LineRange.clip, Nat.min_eq_left inside, Nat.min_eq_left (Nat.le_succ line)]
  have rows : buffer.editedRows ⟨line, line + 1⟩ [text] = buffer.rows.take line ++
      BufferLine.lex buffer.lexer (stateAfterRows .start (buffer.rows.take line)) text ::
        (buffer.resumedRows ⟨line, line + 1⟩ [text]).1 := by
    rw [Buffer.editedRows, Buffer.newRows, Buffer.keptRows, clipped, List.append_assoc]
    rfl
  refine ⟨(buffer.resumedRows ⟨line, line + 1⟩ [text]).1, ?_⟩
  rw [Buffer.setLine, replace_lines_filled buffer ⟨line, line + 1⟩ [text] (List.cons_ne_nil _ _)]
  exact rows

theorem set_line_above (buffer : Buffer) (line : Nat) (text : Text) (inside : line < buffer.rows.length) :
    (buffer.setLine line text).1.lines[line]? = some text ∧
      (buffer.setLine line text).1.states[line]? = buffer.states[line]? ∧
      ∀ above, above < line → (buffer.setLine line text).1.rows[above]? = buffer.rows[above]? := by
  obtain ⟨below, rows⟩ := set_line_rows buffer line text inside
  have width : (buffer.rows.take line).length = line := List.length_take_of_le (Nat.le_of_lt inside)
  have kept : ∀ above, above < line → (buffer.setLine line text).1.rows[above]? = buffer.rows[above]? := by
    intro above higher
    rw [rows, List.getElem?_append_left (by omega), List.getElem?_take_of_lt higher]
  refine ⟨?_, ?_, kept⟩
  · rw [Buffer.lines, rows, List.getElem?_map, List.getElem?_append_right (Nat.le_of_eq width), width, Nat.sub_self]
    rfl
  · cases line with
    | zero => rfl
    | succ above =>
        rw [Buffer.states, Buffer.states, List.getElem?_cons_succ, List.getElem?_cons_succ, List.getElem?_map,
          List.getElem?_map, kept above (Nat.lt_succ_self above)]

theorem document_line_tokens (buffer : Buffer) (line : Nat) :
    buffer.document.lineTokens line = (buffer.rows[line]?.map BufferLine.tokens).getD [] := by
  rw [Document.lineTokens, Buffer.document, List.getElem?_map, Option.map_map]
  rfl

theorem line_tokens_of_buffer (buffer : Buffer) (line : Nat) (tokens : List Token)
    (found : buffer.tokens[line]? = some tokens) : buffer.document.lineTokens line = tokens := by
  rw [document_line_tokens, ← List.getElem?_map]
  exact congrArg (fun found => found.getD []) found

theorem document_line_count (buffer : Buffer) : buffer.document.lineCount = buffer.rows.length :=
  List.length_map _

end FilterAssist
