import FilterAssist.Buffer.Vectors
import FilterAssist.Proofs.Buffer.RelexedRange

set_option autoImplicit false

/-!
The three lists of a buffer stay aligned: every edit of them succeeds and gives the lists of the edited
rows, with the same range of lexed lines.
-/
namespace FilterAssist

theorem state_before_rows (state : LexState) (above below : List BufferLine) :
    (state :: (above ++ below).map BufferLine.after)[above.length]? = some (stateAfterRows state above) := by
  induction above generalizing state with
  | nil => rfl
  | cons row above ih => rw [List.cons_append, List.map_cons, List.length_cons, List.getElem?_cons_succ, ih, state_after_cons]

theorem row_at_end {α : Type} (field : BufferLine → α) (above below : List BufferLine) (row : BufferLine) :
    ((above ++ row :: below).map field)[above.length]? = some (field row) := by
  rw [List.getElem?_map, List.getElem?_append_right (Nat.le_refl _), Nat.sub_self]
  rfl

theorem row_set_at_end {α : Type} (field : BufferLine → α) (above below : List BufferLine) (row fresh : BufferLine) :
    ((above ++ row :: below).map field).set above.length (field fresh) = (above ++ fresh :: below).map field := by
  rw [← List.map_set, List.set_append_right _ _ (Nat.le_refl _), Nat.sub_self, List.set_cons_zero]

theorem relex_line_row (lexer : Lexer) (above below : List BufferLine) (row fresh : BufferLine) (required : Nat)
    (lexed : fresh = BufferLine.lex lexer (stateAfterRows .start above) row.text) :
    (Buffer.vectors ⟨lexer, above ++ row :: below⟩).relexLine above.length required =
      some (Buffer.vectors ⟨lexer, above ++ fresh :: below⟩,
        decide (required ≤ above.length + 1) && decide (row.after = fresh.after)) := by
  have tokens := row_set_at_end BufferLine.tokens above below row fresh
  have states := row_set_at_end BufferLine.after above below row fresh
  have texts : (above ++ row :: below).map BufferLine.text = (above ++ fresh :: below).map BufferLine.text := by
    rw [lexed, List.map_append, List.map_append]
    rfl
  simp only [LineVectors.relexLine, Buffer.vectors, Buffer.lines, Buffer.states, row_at_end, state_before_rows,
    List.getElem?_cons_succ, List.set_cons_succ]
  rw [← tokens, ← states, ← texts, lexed]
  rfl

theorem relex_done (lexer : Lexer) (rows : List BufferLine) (required : Nat) :
    (Buffer.vectors ⟨lexer, rows⟩).relex rows.length required = some (Buffer.vectors ⟨lexer, rows⟩, rows.length) := by
  rw [LineVectors.relex, dif_neg]
  simp [Buffer.vectors, Buffer.lines]

theorem relex_step (lexer : Lexer) (above below : List BufferLine) (row fresh : BufferLine) (required : Nat)
    (lexed : fresh = BufferLine.lex lexer (stateAfterRows .start above) row.text) :
    (Buffer.vectors ⟨lexer, above ++ row :: below⟩).relex above.length required =
      if required ≤ above.length + 1 ∧ row.after = fresh.after then
        some (Buffer.vectors ⟨lexer, above ++ fresh :: below⟩, above.length + 1)
      else (Buffer.vectors ⟨lexer, (above ++ [fresh]) ++ below⟩).relex (above ++ [fresh]).length required := by
  have inside : above.length < (Buffer.vectors ⟨lexer, above ++ row :: below⟩).lines.length := by
    simp [Buffer.vectors, Buffer.lines]
  rw [LineVectors.relex, dif_pos inside, relex_line_row lexer above below row fresh required lexed, List.append_assoc,
    List.singleton_append, List.length_append, List.length_singleton]
  by_cases converged : required ≤ above.length + 1 ∧ row.after = fresh.after
  · rw [if_pos converged, decide_eq_true converged.1, decide_eq_true converged.2]
    rfl
  · have going : (decide (required ≤ above.length + 1) && decide (row.after = fresh.after)) = false := by
      simpa using converged
    rw [if_neg converged, going]

theorem state_after_concat (state : LexState) (rows : List BufferLine) (row : BufferLine) :
    stateAfterRows state (rows ++ [row]) = row.after := by
  simp [stateAfterRows]

theorem relex_settles (lexer : Lexer) (above later : List BufferLine) (required : Nat)
    (late : required ≤ above.length + 1) :
    (Buffer.vectors ⟨lexer, above ++ later⟩).relex above.length required =
      some (Buffer.vectors ⟨lexer, above ++ (settleRows lexer (stateAfterRows .start above) later).1⟩,
        above.length + (settleRows lexer (stateAfterRows .start above) later).2) := by
  induction later generalizing above with
  | nil =>
      rw [List.append_nil, relex_done]
      simp only [settleRows, List.append_nil, Nat.add_zero]
  | cons row later ih =>
      generalize lexed : BufferLine.lex lexer (stateAfterRows .start above) row.text = fresh
      rw [relex_step lexer above later row fresh required lexed.symm, settleRows, lexed]
      by_cases settled : fresh.after = row.after
      · rw [if_pos settled, if_pos ⟨late, settled.symm⟩]
      · have next := ih (above ++ [fresh]) (by rw [List.length_append]; omega)
        rw [state_after_concat] at next
        rw [if_neg settled, if_neg fun converged => settled converged.2.symm, next, List.append_assoc, List.length_append,
          List.length_singleton, Nat.add_assoc, Nat.add_comm 1]
        rfl

theorem lex_rows_length (lexer : Lexer) (state : LexState) (texts : List Text) :
    (lexRows lexer state texts).length = texts.length := by
  rw [← List.length_map BufferLine.text, lex_rows_texts]

theorem relex_required (lexer : Lexer) (above stale later fresh : List BufferLine) (last : BufferLine)
    (resumed : List BufferLine × Nat)
    (lexed : fresh = lexRows lexer (stateAfterRows .start above) ((stale ++ [last]).map BufferLine.text))
    (resumes : resumed = if stateAfterRows .start (above ++ fresh) = last.after then (later, 0)
      else settleRows lexer (stateAfterRows .start (above ++ fresh)) later) :
    (Buffer.vectors ⟨lexer, above ++ (stale ++ last :: later)⟩).relex above.length (above.length + fresh.length) =
      some (Buffer.vectors ⟨lexer, above ++ fresh ++ resumed.1⟩, above.length + fresh.length + resumed.2) := by
  -- The stale rows stand for lines that are new: whatever states they hold, only the last one is compared.
  induction stale generalizing above fresh with
  | nil =>
      generalize first : BufferLine.lex lexer (stateAfterRows .start above) last.text = row
      have single : fresh = [row] := by
        rw [lexed, ← first]
        rfl
      subst single
      rw [state_after_concat] at resumes
      rw [List.nil_append, relex_step lexer above later last row _ first.symm, List.length_singleton]
      by_cases settled : row.after = last.after
      · rw [if_pos ⟨Nat.le_refl _, settled.symm⟩, resumes, if_pos settled, List.append_assoc]
        rfl
      · have next := relex_settles lexer (above ++ [row]) later (above.length + 1) (by simp)
        rw [state_after_concat] at next
        rw [if_neg fun converged => settled converged.2.symm, next, resumes, if_neg settled, List.length_append]
        rfl
  | cons row stale ih =>
      generalize first : BufferLine.lex lexer (stateAfterRows .start above) row.text = one
      generalize others : lexRows lexer one.after ((stale ++ [last]).map BufferLine.text) = rest
      have parts : fresh = one :: rest := by
        rw [lexed, ← others, ← first]
        rfl
      subst parts
      have filled : 0 < rest.length := by
        rw [← others, lex_rows_length]
        simp
      rw [List.append_cons above one rest] at resumes
      have next := ih (above ++ [one]) rest (by rw [state_after_concat, others]) resumes
      rw [List.cons_append, relex_step lexer above _ row one _ first.symm,
        if_neg fun converged => by rw [List.length_cons] at converged; omega, List.append_cons above one rest]
      rw [List.length_append, List.length_singleton, Nat.add_assoc, Nat.add_comm 1] at next
      rw [List.length_append, List.length_singleton]
      exact next

theorem splice_rows {α : Type} (field : BufferLine → α) (rows others : List BufferLine) (start stop : Nat) :
    splice (rows.map field) start stop (others.map field) = (rows.take start ++ others ++ rows.drop stop).map field := by
  simp only [splice, List.map_append, List.map_take, List.map_drop]

theorem splice_states (rows others : List BufferLine) (start stop : Nat) :
    splice (LexState.start :: rows.map BufferLine.after) (start + 1) (stop + 1) (others.map BufferLine.after) =
      .start :: (rows.take start ++ others ++ rows.drop stop).map BufferLine.after := by
  rw [← splice_rows]
  rfl

theorem cut_rows (buffer : Buffer) (texts : List Text) (stale : List BufferLine) (start stop : Nat)
    (lines : stale.map BufferLine.text = texts) (tokens : stale.map BufferLine.tokens = List.replicate texts.length [])
    (states : buffer.vectors.splicedStates start stop texts.length =
      some (splice buffer.states (start + 1) (stop + 1) (stale.map BufferLine.after))) :
    buffer.vectors.cut start stop texts =
      some (Buffer.vectors ⟨buffer.lexer, if buffer.rows.take start ++ stale ++ buffer.rows.drop stop = [] then [⟨[], [], .start⟩]
        else buffer.rows.take start ++ stale ++ buffer.rows.drop stop⟩) := by
  have textsCut : splice buffer.vectors.lines start stop texts =
      (buffer.rows.take start ++ stale ++ buffer.rows.drop stop).map BufferLine.text := by
    rw [← lines]
    exact splice_rows BufferLine.text buffer.rows stale start stop
  have tokensCut : splice buffer.vectors.tokens start stop (List.replicate texts.length []) =
      (buffer.rows.take start ++ stale ++ buffer.rows.drop stop).map BufferLine.tokens := by
    rw [← tokens]
    exact splice_rows BufferLine.tokens buffer.rows stale start stop
  rw [Buffer.states, splice_states] at states
  rw [LineVectors.cut, states, textsCut, tokensCut]
  cases buffer.rows.take start ++ stale ++ buffer.rows.drop stop with
  | nil => rfl
  | cons row rows => rfl

theorem settle_single (lexer : Lexer) (state : LexState) (row : BufferLine) :
    settleRows lexer state [row] = ([BufferLine.lex lexer state row.text], 1) := by
  rw [settleRows]
  split <;> rfl

theorem replace_lines_from_cut (buffer : Buffer) (range : LineRange) (texts : List Text) (cut : List BufferLine)
    (cuts : buffer.vectors.cut (range.clip buffer.rows.length).start (range.clip buffer.rows.length).stop texts =
      some (Buffer.vectors ⟨buffer.lexer, cut⟩)) :
    buffer.vectors.replaceLines range texts =
      ((Buffer.vectors ⟨buffer.lexer, cut⟩).relex (buffer.keptRows range).length
          ((buffer.keptRows range).length + texts.length)).map
        fun relexed => (relexed.1, ⟨(buffer.keptRows range).length, relexed.2⟩) := by
  have count : buffer.vectors.lines.length = buffer.rows.length := List.length_map ..
  rw [LineVectors.replaceLines, count, kept_rows_length]
  rw [LineRange.clip] at cuts ⊢
  rw [cuts, Option.bind_some]

theorem replace_lines_removed (buffer : Buffer) (range : LineRange) :
    buffer.vectors.replaceLines range [] =
      some ((buffer.replaceLines range []).1.vectors, (buffer.replaceLines range []).2) := by
  have cuts := cut_rows buffer [] [] (range.clip buffer.rows.length).start (range.clip buffer.rows.length).stop rfl rfl rfl
  have resumed : buffer.resumedRows range [] =
      settleRows buffer.lexer (stateAfterRows .start (buffer.keptRows range)) (buffer.laterRows range) := by
    simp [Buffer.resumedRows, Buffer.newRows, lexRows, stateAfterRows]
  have edited : buffer.editedRows range [] = buffer.keptRows range ++ (buffer.resumedRows range []).1 := by
    rw [Buffer.editedRows, Buffer.newRows, lexRows, List.append_nil]
  rw [← Buffer.keptRows, ← Buffer.laterRows, List.append_nil] at cuts
  rw [replace_lines_from_cut buffer range [] _ cuts]
  by_cases rows : buffer.keptRows range ++ buffer.laterRows range = []
  · obtain ⟨kept, later⟩ := List.append_eq_nil_iff.mp rows
    rw [resumed, kept, later] at edited
    rcases replace_lines_cases buffer range [] with ⟨_, replaced⟩ | ⟨filled, _⟩
    · have single := relex_settles buffer.lexer [] [⟨[], [], .start⟩] 0 (Nat.zero_le _)
      rw [settle_single] at single
      rw [if_pos rows, replaced, kept]
      exact congrArg (Option.map _) single
    · exact absurd edited filled
  · rcases replace_lines_cases buffer range [] with ⟨empty, _⟩ | ⟨_, replaced⟩
    · rw [edited, List.append_eq_nil_iff] at empty
      have same := resumed_rows_texts buffer range []
      rw [empty.2, eq_comm, List.map_nil, List.map_eq_nil_iff] at same
      exact absurd (List.append_eq_nil_iff.mpr ⟨empty.1, same⟩) rows
    · have settled := relex_settles buffer.lexer (buffer.keptRows range) (buffer.laterRows range)
        (buffer.keptRows range).length (Nat.le_succ _)
      rw [← resumed] at settled
      rw [if_neg rows, replaced, edited, ← kept_rows_length]
      exact congrArg (Option.map _) settled

theorem state_after_append (state : LexState) (above below : List BufferLine) :
    stateAfterRows state (above ++ below) = stateAfterRows (stateAfterRows state above) below := by
  induction above generalizing state with
  | nil => rfl
  | cons row above ih => rw [List.cons_append, state_after_cons, state_after_cons, ih]

def staleRows (front : List Text) (final : Text) (cached : LexState) : List BufferLine :=
  front.map (fun text => ⟨text, [], .start⟩) ++ [⟨final, [], cached⟩]

theorem stale_texts (front : List Text) (final : Text) (cached : LexState) :
    (staleRows front final cached).map BufferLine.text = front ++ [final] := by
  simp [staleRows, Function.comp_def]

theorem stale_tokens (front : List Text) (final : Text) (cached : LexState) :
    (staleRows front final cached).map BufferLine.tokens = List.replicate (front ++ [final]).length [] := by
  simp [staleRows, Function.comp_def, List.map_const', List.replicate_succ']

theorem stale_states (front : List Text) (final : Text) (cached : LexState) :
    (staleRows front final cached).map BufferLine.after = List.replicate front.length .start ++ [cached] := by
  simp [staleRows, Function.comp_def, List.map_const']

theorem relex_stale (lexer : Lexer) (above later : List BufferLine) (front : List Text) (final : Text) (cached : LexState)
    (fresh : List BufferLine) (resumed : List BufferLine × Nat)
    (lexed : fresh = lexRows lexer (stateAfterRows .start above) (front ++ [final]))
    (resumes : resumed = if stateAfterRows .start (above ++ fresh) = cached then (later, 0)
      else settleRows lexer (stateAfterRows .start (above ++ fresh)) later) :
    (Buffer.vectors ⟨lexer, above ++ staleRows front final cached ++ later⟩).relex above.length
        (above.length + (front ++ [final]).length) =
      some (Buffer.vectors ⟨lexer, above ++ fresh ++ resumed.1⟩, above.length + (front ++ [final]).length + resumed.2) := by
  have count : fresh.length = (front ++ [final]).length := by
    rw [lexed, lex_rows_length]
  have required := relex_required lexer above _ later fresh ⟨final, [], cached⟩ resumed
    (by rw [← stale_texts front final cached] at lexed; exact lexed) resumes
  rw [count] at required
  rw [staleRows, List.append_assoc above, List.append_assoc _ [_] later, List.singleton_append]
  exact required

theorem replace_lines_inserted (buffer : Buffer) (range : LineRange) (front : List Text) (final : Text) :
    buffer.vectors.replaceLines range (front ++ [final]) =
      some ((buffer.replaceLines range (front ++ [final])).1.vectors, (buffer.replaceLines range (front ++ [final])).2) := by
  generalize cached : stateAfterRows .start (buffer.rows.take (range.clip buffer.rows.length).stop) = state
  have filled : front ++ [final] ≠ [] := by simp
  have found : buffer.vectors.states[(range.clip buffer.rows.length).stop]? = some state := by
    have split := state_before_rows .start (buffer.rows.take (range.clip buffer.rows.length).stop)
      (buffer.rows.drop (range.clip buffer.rows.length).stop)
    rw [List.take_append_drop, List.length_take, cached] at split
    rwa [LineRange.clip, Nat.min_eq_left (Nat.min_le_right _ _)] at split
  have states : buffer.vectors.splicedStates (range.clip buffer.rows.length).start (range.clip buffer.rows.length).stop
      (front ++ [final]).length = some (splice buffer.states ((range.clip buffer.rows.length).start + 1)
        ((range.clip buffer.rows.length).stop + 1) ((staleRows front final state).map BufferLine.after)) := by
    rw [LineVectors.splicedStates, if_neg (by simp), found, stale_states, List.length_append, List.length_singleton,
      Nat.add_sub_cancel]
    rfl
  have cuts := cut_rows buffer _ _ _ _ (stale_texts front final state) (stale_tokens front final state) states
  have relexed := relex_stale buffer.lexer (buffer.keptRows range) (buffer.laterRows range) front final state
    (buffer.newRows range (front ++ [final])) (buffer.resumedRows range (front ++ [final])) rfl
    (by
      rw [state_after_append, ← cached]
      simp only [Buffer.resumedRows, filled, ne_eq, not_false_eq_true, true_and])
  rcases replace_lines_cases buffer range (front ++ [final]) with ⟨empty, _⟩ | ⟨_, replaced⟩
  · have count := lex_rows_length buffer.lexer (stateAfterRows .start (buffer.keptRows range)) (front ++ [final])
    simp only [Buffer.editedRows, List.append_eq_nil_iff] at empty
    rw [← Buffer.newRows, empty.1.2, List.length_append] at count
    cases count
  · rw [← Buffer.keptRows, ← Buffer.laterRows, if_neg (by simp [staleRows])] at cuts
    rw [replace_lines_from_cut buffer range _ _ cuts, replaced, ← kept_rows_length]
    exact congrArg (Option.map _) relexed

theorem replace_lines_vectors (buffer : Buffer) (range : LineRange) (texts : List Text) :
    buffer.vectors.replaceLines range texts =
      some ((buffer.replaceLines range texts).1.vectors, (buffer.replaceLines range texts).2) := by
  rcases List.eq_nil_or_concat texts with rfl | ⟨front, final, rfl⟩
  · exact replace_lines_removed buffer range
  · rw [List.concat_eq_append]
    exact replace_lines_inserted buffer range front final

theorem of_text_vectors (lexer : Lexer) (text : Text) :
    LineVectors.ofText lexer text = some (Buffer.ofText lexer text).vectors := by
  rw [LineVectors.ofText, LineVectors.setText, Buffer.ofText]
  rcases List.eq_nil_or_concat (splitLines text) with empty | ⟨front, final, lines⟩
  · rw [empty]
    exact congrArg (Option.map Prod.fst) (relex_done lexer [] 0)
  · have relexed := relex_stale lexer [] [] front final .start (lexRows lexer .start (front ++ [final])) ([], 0) rfl
      (by split <;> rfl)
    have blank : Buffer.vectors ⟨lexer, staleRows front final .start⟩ =
        ⟨lexer, front ++ [final], List.replicate ((front ++ [final]).length + 1) .start,
          List.replicate (front ++ [final]).length []⟩ := by
      rw [Buffer.vectors, Buffer.lines, Buffer.states, stale_texts, stale_tokens, stale_states, ← List.replicate_succ',
        ← List.replicate_succ, List.length_append, List.length_singleton]
    rw [lines, List.concat_eq_append, ← blank]
    rw [List.nil_append, List.append_nil, List.length_nil, Nat.zero_add] at relexed
    exact (congrArg (Option.map Prod.fst) relexed).trans (by rw [List.nil_append, List.append_nil]; rfl)

theorem set_text_vectors (buffer : Buffer) (text : Text) :
    buffer.vectors.setText text = some (buffer.setText text).vectors :=
  of_text_vectors buffer.lexer text

def LineVectors.edit (vectors : LineVectors) : Edit → Option LineVectors
  | .setText text => vectors.setText text
  | .setLine line text => (vectors.setLine line text).map Prod.fst
  | .replaceLines range texts => (vectors.replaceLines range texts).map Prod.fst

def LineVectors.editAll (vectors : LineVectors) (edits : List Edit) : Option LineVectors :=
  edits.foldlM LineVectors.edit vectors

theorem edit_vectors (buffer : Buffer) (edit : Edit) : buffer.vectors.edit edit = some (buffer.edit edit).vectors := by
  cases edit with
  | setText text => exact set_text_vectors buffer text
  | setLine line text => exact congrArg (Option.map Prod.fst) (replace_lines_vectors buffer ⟨line, line + 1⟩ [text])
  | replaceLines range texts => exact congrArg (Option.map Prod.fst) (replace_lines_vectors buffer range texts)

theorem edit_all_vectors (buffer : Buffer) (edits : List Edit) :
    buffer.vectors.editAll edits = some (buffer.editAll edits).vectors := by
  induction edits generalizing buffer with
  | nil => rfl
  | cons edit edits ih =>
      rw [LineVectors.editAll, List.foldlM_cons, edit_vectors]
      exact ih (buffer.edit edit)

theorem vectors_buffer (buffer : Buffer) : buffer.vectors.buffer = buffer := by
  rw [LineVectors.buffer, Buffer.vectors, Buffer.lines, Buffer.states, List.tail_cons, List.zip_map', List.zip_map',
    List.map_map]
  exact congrArg (Buffer.mk buffer.lexer) (List.map_id buffer.rows)

theorem edited_vectors_aligned (lexer : Lexer) (text : Text) (edits : List Edit) :
    ∃ vectors, (LineVectors.ofText lexer text).bind (LineVectors.editAll · edits) = some vectors ∧
      vectors.buffer = (Buffer.ofText lexer text).editAll edits ∧
      vectors.tokens.length = vectors.lines.length ∧ vectors.states.length = vectors.lines.length + 1 := by
  refine ⟨((Buffer.ofText lexer text).editAll edits).vectors, ?_, vectors_buffer _, ?_, ?_⟩
  · rw [of_text_vectors, Option.bind_some, edit_all_vectors]
  · simp [Buffer.vectors, Buffer.lines]
  · simp [Buffer.vectors, Buffer.lines, Buffer.states]

end FilterAssist
