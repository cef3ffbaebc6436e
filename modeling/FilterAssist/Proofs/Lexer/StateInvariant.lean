import Mathlib
import FilterAssist.Proofs.Lexer.Brackets
import FilterAssist.Proofs.Lexer.OpenLines
import FilterAssist.Proofs.Lexer.PlainScan
import FilterAssist.Proofs.Lexer.VisualColumns

set_option autoImplicit false

/-!
What holds of every state that the lexer can be in. An open string or comment is what was read last, each
frame goes back to a bracket in one of the lines, and the frame that waits for its alignment is there and
has none yet. A bracket stands no further left than its line is indented, unless its column is more than a
word can hold.
-/
namespace FilterAssist

structure Frame.OpenedAt (layout : Layout) (line : Text) (index : Nat) (frame : Frame) : Prop where
  bracket : ((line.drop index).head? = some '(' ∧ frame.closing = ')') ∨ ((line.drop index).head? = some '{' ∧ frame.closing = '}')
  indent : frame.parentIndent = indentation layout.tabWord line
  column : frame.column = wordColumn layout.tabWord line index

structure Frame.Sound (layout : Layout) (lines : List Text) (frame : Frame) : Prop where
  closes : frame.closing = ')' ∨ frame.closing = '}'
  asked : frame.aligned = true → layout.alignBrackets = true
  indented : ∃ line ∈ lines, ∃ index, frame.OpenedAt layout line index ∧
    (visualColumn layout.tabWord.toNat line index < 2 ^ 64 → frame.parentIndent ≤ frame.column)

structure LexState.Sound (layout : Layout) (lines : List Text) (state : LexState) : Prop where
  string : ∀ quote, state.mode = .inString quote → IsQuote quote ∧ state.lastKind = some .string
  comment : state.mode = .inComment → state.lastKind = some .comment
  framed : ∀ frame ∈ state.frames, frame.Sound layout lines
  waiting : state.pendingAlign = true → ∃ frame outer, state.frames = frame :: outer ∧ frame.aligned = false

theorem blanks_before_solid (line : Text) (column : Nat) (c : Char) (rest : Text)
    (shape : line.drop column = c :: rest) (solid : isBlank c = false) :
    (line.takeWhile isBlank).length ≤ column := by
  have parts : line = line.take column ++ c :: rest := by rw [← shape, List.take_append_drop]
  rw [parts, take_while_stops isBlank _ rest c solid]
  exact (take_while_fits isBlank _).trans (List.length_take_le column line)

theorem indentation_before_solid (tabSize : UInt64) (line : Text) (column : Nat) (c : Char) (rest : Text)
    (shape : line.drop column = c :: rest) (solid : isBlank c = false)
    (fits : visualColumn tabSize.toNat line column < 2 ^ 64) : indentation tabSize line ≤ wordColumn tabSize line column := by
  have ordered := visual_column_ordered tabSize.toNat line _ column (blanks_before_solid line column c rest shape solid)
  rw [UInt64.le_iff_toNat_le, indentation, word_column_exact tabSize line column fits,
    word_column_exact tabSize line _ (ordered.trans_lt fits)]
  exact ordered

theorem sound_more_lines (layout : Layout) (lines more : List Text) (state : LexState) (sound : state.Sound layout lines) :
    state.Sound layout (lines ++ more) := by
  refine ⟨sound.string, sound.comment, fun frame member => ?_, sound.waiting⟩
  obtain ⟨closes, asked, line, listed, opened⟩ := sound.framed frame member
  exact ⟨closes, asked, line, List.mem_append_left more listed, opened⟩

theorem clear_pending_sound (layout : Layout) (lines : List Text) (state : LexState) (sound : state.Sound layout lines) :
    state.clearPending.Sound layout lines :=
  ⟨sound.string, sound.comment, sound.framed, fun pending => absurd pending Bool.false_ne_true⟩

theorem entering_sound (layout : Layout) (lines : List Text) (state : LexState) (column : Nat)
    (sound : state.Sound layout lines) : (state.entering column).Sound layout lines := by
  unfold LexState.entering
  split
  · exact clear_pending_sound layout lines state sound
  · exact sound

theorem settle_align_sound (layout : Layout) (lines : List Text) (state : LexState) (sound : state.Sound layout lines) :
    (state.settleAlign layout.alignBrackets).Sound layout lines ∧
      (state.settleAlign layout.alignBrackets).pendingAlign = false := by
  unfold LexState.settleAlign
  split
  · have framed := sound.framed
    refine ⟨⟨sound.string, sound.comment, ?_, fun again => absurd again Bool.false_ne_true⟩, rfl⟩
    dsimp only
    split
    · rename_i frame outer asked shape
      rw [shape] at framed
      obtain ⟨⟨closes, _, line, listed, index, opened, indented⟩, later⟩ := List.forall_mem_cons.mp framed
      have moved : Frame.OpenedAt layout line index { frame with aligned := true } :=
        ⟨opened.bracket, opened.indent, opened.column⟩
      exact List.forall_mem_cons.mpr ⟨⟨closes, fun _ => asked, line, listed, index, moved, indented⟩, later⟩
    · exact framed
  · rename_i settled
    exact ⟨sound, by simpa using settled⟩

theorem close_sound (layout : Layout) (lines : List Text) (state : LexState) (c : Char) (sound : state.Sound layout lines)
    (settled : state.pendingAlign = false) : (state.close c).Sound layout lines := by
  unfold LexState.close
  split
  · rename_i frame outer shape
    split
    · have framed := sound.framed
      rw [shape] at framed
      refine ⟨sound.string, sound.comment, (List.forall_mem_cons.mp framed).2, fun pending => ?_⟩
      exact absurd (settled.symm.trans pending) Bool.false_ne_true
    · exact sound
  · exact sound

theorem opened_frame_sound (layout : Layout) (lines : List Text) (line : Text) (index : Nat) (frame : Frame)
    (listed : line ∈ lines) (opened : frame.OpenedAt layout line index) (unaligned : frame.aligned = false) :
    frame.Sound layout lines := by
  have indented (c : Char) (found : (line.drop index).head? = some c) (solid : isBlank c = false)
      (fits : visualColumn layout.tabWord.toNat line index < 2 ^ 64) : frame.parentIndent ≤ frame.column := by
    obtain ⟨rest, shape⟩ := List.head?_eq_some_iff.mp found
    rw [opened.indent, opened.column]
    exact indentation_before_solid layout.tabWord line index c rest shape solid fits
  refine ⟨?_, fun aligned => absurd (unaligned.symm.trans aligned) Bool.false_ne_true, line, listed, index, opened, ?_⟩
  · exact opened.bracket.imp And.right And.right
  · rcases opened.bracket with ⟨found, _⟩ | ⟨found, _⟩
    · exact indented '(' found (by decide)
    · exact indented '{' found (by decide)

theorem track_sound (lexer : Lexer) (lines : List Text) (line : Text) (token : Token) (state : LexState)
    (sound : state.Sound lexer.layout lines) (listed : line ∈ lines)
    (stands : ∀ c, token.text = [c] → (line.drop token.start).head? = some c) :
    (lexer.track line token state).Sound lexer.layout lines := by
  obtain ⟨settled, quiet⟩ := settle_align_sound lexer.layout lines state sound
  rcases track_cases lexer line token state with
    ⟨_, same⟩ | ⟨frame, closing, unaligned, indent, column, pushed⟩ | ⟨c, rest, _, _, closed⟩ | ⟨_, _, kept⟩
  · rw [same]
    exact sound
  · rw [pushed]
    have opened : frame.OpenedAt lexer.layout line token.start := by
      obtain ⟨_, bracket⟩ := closing_of_some token frame.closing closing
      exact ⟨bracket.imp (And.imp_left (stands '(')) (And.imp_left (stands '{')), indent, column⟩
    have first := opened_frame_sound lexer.layout lines line token.start frame listed opened unaligned
    exact ⟨sound.string, sound.comment, List.forall_mem_cons.mpr ⟨first, sound.framed⟩,
      fun _ => ⟨frame, state.frames, rfl, unaligned⟩⟩
  · rw [closed]
    exact close_sound lexer.layout lines _ c settled quiet
  · rw [kept]
    exact settled

theorem scan_in_comment (vocabulary : Vocabulary) (mode : LexMode) (c : Char) (rest : Text)
    (inside : (scan vocabulary mode c rest).mode = .inComment) : (scan vocabulary mode c rest).kind = some .comment := by
  cases mode with
  | plain =>
      have shape := scan_plain_shape vocabulary c rest
      rw [scan] at inside ⊢
      generalize scanPlain vocabulary c rest = lexeme at shape inside
      cases shape with
      | opening => cases inside
      | closing => cases inside
      | string =>
          simp only [Stretch.modeAfter] at inside
          split at inside <;> cases inside
      | lineComment => rfl
      | blockComment => rfl
      | number => cases inside
      | pointNumber => cases inside
      | word =>
          rw [scan_word_mode] at inside
          cases inside
  | inString quote =>
      simp only [scan, Stretch.modeAfter] at inside
      split at inside <;> cases inside
  | inComment => rfl

theorem next_token_sound (lexer : Lexer) (lines : List Text) (line : Text) (column : Nat) (state after : LexState)
    (token : Token) (listed : line ∈ lines) (found : lexer.nextToken line column state = some (token, after))
    (sound : state.Sound lexer.layout lines) : after.Sound lexer.layout lines := by
  have marked := next_token_marked lexer line column state after token found (fun quote inside => (sound.string quote inside).1)
  have entered := entering_sound lexer.layout lines state column sound
  obtain ⟨c, rest, shape, step⟩ := next_token_cases lexer line column state after token found
  rcases step with ⟨_, rfl, rfl⟩ | ⟨lexeme, _, scanned, rfl, rfl⟩
  · exact entered
  · refine track_sound lexer lines line _ _ ⟨?_, ?_, entered.framed, entered.waiting⟩ listed ?_
    · intro quote inside
      refine ⟨marked quote (by rw [track_mode]; exact inside), ?_⟩
      dsimp only at inside ⊢
      rw [scanned] at inside ⊢
      exact scan_in_string lexer.vocabulary state.mode c rest quote inside
    · intro inside
      dsimp only at inside ⊢
      rw [scanned] at inside ⊢
      exact scan_in_comment lexer.vocabulary state.mode c rest inside
    · intro d text
      have positive := scan_pos lexer.vocabulary state.mode c rest
      have heads := congrArg List.head? text
      rw [← scanned] at positive
      rw [List.head?_take, if_neg (Nat.ne_of_gt positive)] at heads
      have first : c = d := Option.some.inj heads
      rw [shape, first]
      rfl

theorem token_path_sound (lexer : Lexer) (lines : List Text) (line : Text) (column stop : Nat) (state reached : LexState)
    (tokens : List Token) (listed : line ∈ lines) (path : TokenPath lexer line column state tokens stop reached)
    (sound : state.Sound lexer.layout lines) : reached.Sound lexer.layout lines := by
  induction path with
  | done column state => exact sound
  | step column stop state after reached token tokens found _ ih =>
      exact ih (next_token_sound lexer lines line column state after token listed found sound)

theorem lex_lines_sound (lexer : Lexer) (seen lines : List Text) (state : LexState)
    (sound : state.Sound lexer.layout seen) : (lexer.lexLines lines state).2.Sound lexer.layout (seen ++ lines) := by
  -- A line adds itself to those that the frames can go back to.
  induction lines generalizing seen state with
  | nil => rwa [List.append_nil]
  | cons line lines ih =>
      obtain ⟨stop, path⟩ := lex_line_path lexer line state
      have entered := clear_pending_sound lexer.layout _ state (sound_more_lines lexer.layout seen [line] state sound)
      have after := token_path_sound lexer (seen ++ [line]) line 0 stop _ _ _ (by simp) path entered
      rw [List.append_cons]
      exact ih (seen ++ [line]) _ after

theorem start_sound (layout : Layout) : LexState.start.Sound layout [] :=
  ⟨fun quote inside => (by cases inside), fun inside => (by cases inside), fun frame member => (by cases member),
    fun pending => (by cases pending)⟩

theorem lex_some_path (lexer : Lexer) (count : Nat) (cursor : Cursor) (state : LexState) :
    ∃ stop, TokenPath lexer cursor.line cursor.pos state (lexer.lexSome count cursor state).1 stop
      (lexer.lexSome count cursor state).2.2 := by
  induction count generalizing cursor state with
  | zero => exact ⟨cursor.pos, .done cursor.pos state⟩
  | succ count ih =>
      have taken := read_token_eq lexer cursor state
      rw [← next_token_eq] at taken
      cases found : lexer.nextToken cursor.line cursor.pos state with
      | none =>
          rw [found] at taken
          rw [Lexer.lexSome, taken]
          exact ⟨cursor.pos, .done cursor.pos state⟩
      | some step =>
          obtain ⟨token, after⟩ := step
          rw [found] at taken
          obtain ⟨stop, path⟩ := ih ⟨cursor.line, token.stop, cursor.pos⟩ after
          rw [Lexer.lexSome, taken]
          exact ⟨stop, .step cursor.pos stop state after _ token _ found path⟩

theorem reached_states_sound (lexer : Lexer) (lines : List Text) (line : Text) (count : Nat) :
    let before := (lexer.lexLines lines .start).2
    let after := (lexer.lexSome count (.ofColumn line 0) before.clearPending).2.2
    before.Sound lexer.layout lines ∧ after.Sound lexer.layout (lines ++ [line]) := by
  intro before after
  have sound : before.Sound lexer.layout lines := lex_lines_sound lexer [] lines .start (start_sound lexer.layout)
  obtain ⟨stop, path⟩ := lex_some_path lexer count (.ofColumn line 0) before.clearPending
  have entered := clear_pending_sound lexer.layout _ before (sound_more_lines lexer.layout lines [line] before sound)
  exact ⟨sound, token_path_sound lexer (lines ++ [line]) line _ stop _ _ _ (by simp) path entered⟩

theorem reached_states_sound_with_wide_tabs :
    let lexer : Lexer := { vocabulary := Vocabulary.ofLists {}, layout := { tabSize := 2 ^ 61, alignBrackets := true } }
    let before := (lexer.lexLines ["\t\x7b".toList] .start).2
    let after := (lexer.lexSome 3 (.ofColumn "\t\t('a".toList 0) before.clearPending).2.2
    after =
        { mode := .inString '\'', lastKind := some .string,
          frames := [⟨2 ^ 62, 2 ^ 62, ')', true⟩, ⟨2 ^ 61, 2 ^ 61, '}', false⟩] } ∧
      ∀ frame ∈ after.frames, frame.parentIndent ≤ frame.column := by
  intro lexer before after
  refine ⟨by decide +kernel, fun frame member => ?_⟩
  obtain ⟨_, sound⟩ := reached_states_sound lexer ["\t\x7b".toList] "\t\t('a".toList 3
  obtain ⟨_, _, line, listed, index, _, indented⟩ := sound.framed frame member
  have most := visual_column_at_most (2 ^ 61) line index
  apply indented
  rcases List.mem_cons.mp listed with rfl | rest
  · exact most.trans_lt (by decide)
  · rw [List.mem_singleton.mp rest] at most ⊢
    exact most.trans_lt (by decide)

-- Two tabs of this size leave room for one more column, and the bracket is in the one after that.
theorem bracket_left_of_indentation :
    let lexer : Lexer := { vocabulary := Vocabulary.ofLists {}, layout := { tabSize := 2 ^ 63 - 1 } }
    ∃ frame, (lexer.lexLines ["\t\tab(".toList] .start).2.frames = [frame] ∧ ¬ frame.parentIndent ≤ frame.column := by
  intro lexer
  exact ⟨⟨18446744073709551614, 0, ')', false⟩, by decide +kernel, by decide⟩

end FilterAssist
