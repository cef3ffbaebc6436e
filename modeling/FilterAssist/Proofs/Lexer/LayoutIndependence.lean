import Mathlib
import FilterAssist.Proofs.Lexer.Lines
import FilterAssist.Proofs.Lexer.Strings

set_option autoImplicit false

/-!
Layout and tokens are apart. What a layout asks for shows in the frames of the open brackets alone, and no
scan reads them: which tokens a text has depends on the vocabulary and on the mode in which it starts. A text
in front of it moves its tokens to the right.
-/
namespace FilterAssist

def Token.shift (distance : Nat) (token : Token) : Token :=
  { token with start := token.start + distance, stop := token.stop + distance }

theorem next_token_shifted (one other : Lexer) (front line : Text) (column : Nat) (state twin after : LexState)
    (token : Token) (words : one.vocabulary = other.vocabulary) (mode : state.mode = twin.mode)
    (found : one.nextToken line column state = some (token, after)) :
    ∃ reached, other.nextToken (front ++ line) (column + front.length) twin = some (token.shift front.length, reached) ∧
      after.mode = reached.mode := by
  obtain ⟨c, rest, shape, step⟩ := next_token_cases one line column state after token found
  have longer : (front ++ line).drop (column + front.length) = c :: rest := by
    rw [Nat.add_comm, List.drop_length_add_append, shape]
  rcases step with ⟨blank, rfl, rfl⟩ | ⟨lexeme, solid, scanned, rfl, rfl⟩
  · have next := next_token_blank other _ _ twin c rest longer blank
    rw [Nat.add_right_comm] at next
    exact ⟨_, next, by rw [entering_mode, entering_mode, mode]⟩
  · have again : lexeme = scan other.vocabulary twin.mode c rest := by rw [scanned, words, mode]
    have next := next_token_scan other _ _ twin c rest longer solid lexeme again
    rw [Nat.add_right_comm] at next
    exact ⟨_, next, by rw [track_mode, track_mode]⟩

theorem token_run_shifted (one other : Lexer) (front line : Text) (column : Nat) (state twin final : LexState)
    (tokens : List Token) (words : one.vocabulary = other.vocabulary) (mode : state.mode = twin.mode)
    (run : TokenRun one line column state tokens final) :
    ∃ reached, TokenRun other (front ++ line) (column + front.length) twin (tokens.map (Token.shift front.length)) reached ∧
      final.mode = reached.mode := by
  induction run generalizing twin with
  | done column state ended =>
      have past := (next_token_none_iff one line column state).mp ended
      refine ⟨twin, .done _ twin ((next_token_none_iff other _ _ twin).mpr ?_), mode⟩
      rw [List.length_append]
      omega
  | step column state after final token tokens found _ ih =>
      obtain ⟨next, again, sameMode⟩ :=
        next_token_shifted one other front line column state twin after token words mode found
      obtain ⟨reached, rest, finalMode⟩ := ih next sameMode
      exact ⟨reached, .step _ twin next reached _ _ again rest, finalMode⟩

theorem token_run_same_words (one other : Lexer) (line : Text) (column : Nat) (state twin final : LexState)
    (tokens : List Token) (words : one.vocabulary = other.vocabulary) (mode : state.mode = twin.mode)
    (run : TokenRun one line column state tokens final) :
    ∃ reached, TokenRun other line column twin tokens reached ∧ final.mode = reached.mode := by
  have unmoved : Token.shift 0 = id := funext fun _ => rfl
  have moved := token_run_shifted one other [] line column state twin final tokens words mode run
  rwa [List.nil_append, List.length_nil, unmoved, List.map_id, Nat.add_zero] at moved

theorem lex_line_same_words (one other : Lexer) (line : Text) (state twin : LexState)
    (words : one.vocabulary = other.vocabulary) (mode : state.mode = twin.mode) :
    (one.lexLine line state).1 = (other.lexLine line twin).1 ∧
      (one.lexLine line state).2.mode = (other.lexLine line twin).2.mode := by
  obtain ⟨reached, run, finalMode⟩ := token_run_same_words one other line 0 state.clearPending twin.clearPending _ _
    words mode (token_run_exists one line 0 state.clearPending)
  have result : ((one.lexLine line state).1, reached) = other.lexLine line twin :=
    token_run_unique other line 0 twin.clearPending reached _ run
  rw [← result]
  exact ⟨rfl, finalMode⟩

theorem lex_lines_same_words (one other : Lexer) (lines : List Text) (state twin : LexState)
    (words : one.vocabulary = other.vocabulary) (mode : state.mode = twin.mode) :
    (one.lexLines lines state).1 = (other.lexLines lines twin).1 ∧
      (one.lexLines lines state).2.mode = (other.lexLines lines twin).2.mode := by
  induction lines generalizing state twin with
  | nil => exact ⟨rfl, mode⟩
  | cons line lines ih =>
      obtain ⟨tokens, sameMode⟩ := lex_line_same_words one other line state twin words mode
      obtain ⟨rest, finalMode⟩ := ih (one.lexLine line state).2 (other.lexLine line twin).2 sameMode
      refine ⟨?_, finalMode⟩
      rw [Lexer.lexLines, Lexer.lexLines]
      dsimp only
      rw [tokens, rest]

theorem token_streams_ignore_layout (vocabulary : Vocabulary) (layout otherLayout : Layout) (state twin : LexState)
    (mode : state.mode = twin.mode) (lines : List Text) :
    let one : Lexer := ⟨vocabulary, layout⟩
    let other : Lexer := ⟨vocabulary, otherLayout⟩
    (one.lexLines lines state).1 = (other.lexLines lines twin).1 ∧
      ∀ count, (one.lexLines (lines.take count) state).2.mode = (other.lexLines (lines.take count) twin).2.mode := by
  intro one other
  refine ⟨(lex_lines_same_words one other lines state twin rfl mode).1, fun count => ?_⟩
  exact (lex_lines_same_words one other (lines.take count) state twin rfl mode).2

theorem token_streams_ignore_layout_around_bracket :
    let one : Lexer := ⟨Vocabulary.ofLists {}, { tabSize := 1 }⟩
    let other : Lexer := ⟨Vocabulary.ofLists {}, { indentUnit := 4, tabSize := 8, alignBrackets := true }⟩
    let state : LexState := { mode := .inString '"' }
    let twin : LexState := ⟨.inString '"', some .comment, [⟨3, 9, ')', true⟩], true⟩
    let lines := ["\t'\" ('a'".toList, "'b) /*".toList, "c')".toList]
    state.mode = twin.mode ∧
      (one.lexLines lines state).2.frames = [] ∧
      (other.lexLines lines twin).2.frames = [⟨3, 9, ')', true⟩] ∧
      (one.lexLines (lines.take 1) state).2.frames = [⟨1, 4, ')', false⟩] ∧
      (other.lexLines (lines.take 1) twin).2.frames = [⟨8, 11, ')', true⟩, ⟨3, 9, ')', true⟩] ∧
      (one.lexLines lines state).1 = (other.lexLines lines twin).1 ∧
      (one.lexLines (lines.take 2) state).2.mode = (other.lexLines (lines.take 2) twin).2.mode := by
  intro one other state twin lines
  obtain ⟨tokens, modes⟩ := token_streams_ignore_layout (Vocabulary.ofLists {}) { tabSize := 1 }
    { indentUnit := 4, tabSize := 8, alignBrackets := true } state twin rfl lines
  refine ⟨rfl, ?_, ?_, ?_, ?_, tokens, modes 2⟩ <;> cbv

end FilterAssist
