import FilterAssist.Proofs.Lexer.Reading

set_option autoImplicit false

/-!
The tokens of a line tile it: they lie side by side from its first column to its last, none is
empty, and each has the text of its columns. Asking for the tokens one by one gives the same.
-/
namespace FilterAssist

def slice (line : Text) (start stop : Nat) : Text :=
  (line.drop start).take (stop - start)

def Tiles (line : Text) : Nat → List Token → Nat → Prop
  | first, [], last => first = last
  | first, token :: tokens, last =>
    token.start = first ∧ first < token.stop ∧ token.text = slice line token.start token.stop ∧
      Tiles line token.stop tokens last

theorem slice_append (line : Text) (first middle last : Nat) (early : first ≤ middle) (late : middle ≤ last) :
    slice line first middle ++ slice line middle last = slice line first last := by
  have split : last - first = (middle - first) + (last - middle) := by omega
  have rest : line.drop middle = (line.drop first).drop (middle - first) := by
    rw [List.drop_drop, Nat.add_sub_cancel' early]
  rw [slice, slice, slice, split, List.take_add, rest]

theorem slice_whole (line : Text) : slice line 0 line.length = line := by
  simp [slice]

theorem tiles_ordered (line : Text) (tokens : List Token) (first last : Nat)
    (tiles : Tiles line first tokens last) : first ≤ last := by
  induction tokens generalizing first with
  | nil => exact Nat.le_of_eq tiles
  | cons token tokens ih =>
      obtain ⟨_, forward, _, rest⟩ := tiles
      have later := ih token.stop rest
      omega

theorem tiles_join (line : Text) (tokens : List Token) (first last : Nat)
    (tiles : Tiles line first tokens last) : tokens.flatMap Token.text = slice line first last := by
  induction tokens generalizing first with
  | nil =>
      have same : first = last := tiles
      simp [slice, same]
  | cons token tokens ih =>
      obtain ⟨starts, forward, content, rest⟩ := tiles
      have later := tiles_ordered line tokens token.stop last rest
      rw [List.flatMap_cons, ih token.stop rest, content, starts]
      exact slice_append line first token.stop last (Nat.le_of_lt forward) later

theorem tiles_count (line : Text) (tokens : List Token) (first last : Nat)
    (tiles : Tiles line first tokens last) : first + tokens.length ≤ last := by
  induction tokens generalizing first with
  | nil => exact Nat.le_of_eq tiles
  | cons token tokens ih =>
      obtain ⟨_, forward, _, rest⟩ := tiles
      have later := ih token.stop rest
      rw [List.length_cons]
      omega

def LexState.entering (state : LexState) (column : Nat) : LexState :=
  if column = 0 then state.clearPending else state

theorem entering_mode (state : LexState) (column : Nat) : (state.entering column).mode = state.mode := by
  unfold LexState.entering
  split <;> rfl

-- Everything one step of the lexer can do: a run of blanks leaves the state alone, and any other token is exactly
-- as long as its scan, which never reaches past the end of the line.
theorem next_token_cases (lexer : Lexer) (line : Text) (column : Nat) (state after : LexState) (token : Token)
    (found : lexer.nextToken line column state = some (token, after)) :
    ∃ c rest, line.drop column = c :: rest ∧
      ((isBlank c = true ∧ after = state.entering column ∧
          token = ⟨none, c :: rest.takeWhile isBlank, column, column + ((rest.takeWhile isBlank).length + 1)⟩) ∨
        ∃ lexeme, isBlank c = false ∧ lexeme = scan lexer.vocabulary state.mode c rest ∧
          token = ⟨lexeme.kind, (c :: rest).take lexeme.length, column, column + lexeme.length⟩ ∧
          after = lexer.track line token
            { state.entering column with mode := lexeme.mode, lastKind := lexeme.kind }) := by
  rw [next_token_eq, Lexer.tokenAt] at found
  split at found
  · cases found
  · rename_i c rest shape
    refine ⟨c, rest, shape, ?_⟩
    by_cases blank : isBlank c = true
    · left
      simp only [if_pos blank, Option.some.injEq, Prod.mk.injEq] at found
      exact ⟨blank, found.2.symm, found.1.symm⟩
    · right
      have sameMode : (if column = 0 then state.clearPending else state).mode = state.mode := entering_mode state column
      simp only [if_neg blank, sameMode, Option.some.injEq, Prod.mk.injEq] at found
      obtain ⟨tokenEq, afterEq⟩ := found
      refine ⟨_, by simpa using blank, rfl, tokenEq.symm, ?_⟩
      rw [← afterEq, ← tokenEq]
      rfl

theorem next_token_span (lexer : Lexer) (line : Text) (column : Nat) (state after : LexState) (token : Token)
    (found : lexer.nextToken line column state = some (token, after)) :
    token.start = column ∧ column < token.stop ∧ token.stop ≤ line.length ∧
      token.text = slice line token.start token.stop := by
  obtain ⟨c, rest, shape, step⟩ := next_token_cases lexer line column state after token found
  have left : line.length - column = rest.length + 1 := by
    rw [← List.length_drop, shape, List.length_cons]
  rcases step with ⟨_, _, rfl⟩ | ⟨lexeme, _, scanned, rfl, _⟩
  · have fits := take_while_fits isBlank rest
    refine ⟨rfl, by simp only; omega, by simp only; omega, ?_⟩
    simp only [slice, shape, Nat.add_sub_cancel_left, List.take_succ_cons]
    rw [← List.prefix_iff_eq_take.mp (List.takeWhile_prefix isBlank)]
  · have fits := scan_fits lexer.vocabulary state.mode c rest
    have positive := scan_pos lexer.vocabulary state.mode c rest
    rw [← scanned] at fits positive
    refine ⟨rfl, by simp only; omega, by simp only; omega, ?_⟩
    simp only [slice, shape, Nat.add_sub_cancel_left]

theorem next_token_none_iff (lexer : Lexer) (line : Text) (column : Nat) (state : LexState) :
    lexer.nextToken line column state = none ↔ line.length ≤ column := by
  rw [next_token_eq]
  constructor
  · intro ended
    by_cases inside : column < line.length
    · have shape := List.drop_eq_getElem_cons inside
      simp only [Lexer.tokenAt, shape] at ended
      split at ended <;> cases ended
    · omega
  · exact token_at_end lexer line column state

theorem next_token_column_lt (lexer : Lexer) (line : Text) (column : Nat) (state after : LexState) (token : Token)
    (found : lexer.nextToken line column state = some (token, after)) : column < line.length := by
  obtain ⟨_, forward, fits, _⟩ := next_token_span lexer line column state after token found
  omega

theorem lex_from_end (lexer : Lexer) (line : Text) (column : Nat) (state : LexState)
    (ended : lexer.nextToken line column state = none) : lexer.lexFrom line column state = ([], state) := by
  have missing : lexer.readToken (.ofColumn line column) state = none := Option.map_eq_none_iff.mp ended
  rw [Lexer.lexFrom, Lexer.lexCursor, missing]

theorem lex_from_step (lexer : Lexer) (line : Text) (column : Nat) (state after : LexState) (token : Token)
    (found : lexer.nextToken line column state = some (token, after)) :
    lexer.lexFrom line column state =
      (token :: (lexer.lexFrom line token.stop after).1, (lexer.lexFrom line token.stop after).2) := by
  obtain ⟨_, _, fits, _⟩ := next_token_span lexer line column state after token found
  obtain ⟨⟨token, cursor, after⟩, taken, same⟩ := Option.map_eq_some_iff.mp found
  cases same
  have reached : lexer.lexCursor cursor after = lexer.lexFrom line token.stop after := by
    rw [read_token_eq] at taken
    obtain ⟨_, _, same⟩ := Option.map_eq_some_iff.mp taken
    cases same
    exact lex_cursor_from lexer _ _ fits
  rw [Lexer.lexFrom, Lexer.lexCursor, taken, ← reached]

theorem lex_from_tiles (lexer : Lexer) (line : Text) (column : Nat) (state : LexState)
    (inside : column ≤ line.length) : Tiles line column (lexer.lexFrom line column state).1 line.length := by
  cases found : lexer.nextToken line column state with
  | none =>
      rw [lex_from_end lexer line column state found]
      have past := (next_token_none_iff lexer line column state).mp found
      exact Nat.le_antisymm inside past
  | some step =>
      obtain ⟨token, after⟩ := step
      obtain ⟨starts, forward, fits, content⟩ := next_token_span lexer line column state after token found
      rw [lex_from_step lexer line column state after token found]
      exact ⟨starts, forward, content, lex_from_tiles lexer line token.stop after fits⟩
termination_by line.length - column

-- Asking for one token after the other, each time at the column and in the state that the token before it left,
-- until there is none.
inductive TokenRun (lexer : Lexer) (line : Text) : Nat → LexState → List Token → LexState → Prop
  | done (column : Nat) (state : LexState) (ended : lexer.nextToken line column state = none) :
      TokenRun lexer line column state [] state
  | step (column : Nat) (state after final : LexState) (token : Token) (tokens : List Token)
      (found : lexer.nextToken line column state = some (token, after))
      (rest : TokenRun lexer line token.stop after tokens final) :
      TokenRun lexer line column state (token :: tokens) final

theorem token_run_unique (lexer : Lexer) (line : Text) (column : Nat) (state final : LexState) (tokens : List Token)
    (run : TokenRun lexer line column state tokens final) : (tokens, final) = lexer.lexFrom line column state := by
  induction run with
  | done column state ended => exact (lex_from_end lexer line column state ended).symm
  | step column state after final token tokens found _ ih =>
      rw [lex_from_step lexer line column state after token found, ← ih]

theorem token_run_exists (lexer : Lexer) (line : Text) (column : Nat) (state : LexState) :
    TokenRun lexer line column state (lexer.lexFrom line column state).1 (lexer.lexFrom line column state).2 := by
  cases found : lexer.nextToken line column state with
  | none =>
      rw [lex_from_end lexer line column state found]
      exact .done column state found
  | some step =>
      obtain ⟨token, after⟩ := step
      obtain ⟨_, forward, fits, _⟩ := next_token_span lexer line column state after token found
      rw [lex_from_step lexer line column state after token found]
      exact .step column state after _ token _ found (token_run_exists lexer line token.stop after)
termination_by line.length - column

-- The first step drops a pending alignment by itself, so clearing it beforehand shows only in the state after a
-- line that has no token.
theorem lex_line_entering (lexer : Lexer) (line : Text) (state : LexState) (filled : line ≠ []) :
    lexer.lexLine line state = lexer.lexFrom line 0 state := by
  have same : lexer.nextToken line 0 state.clearPending = lexer.nextToken line 0 state := by
    rw [next_token_eq, next_token_eq]
    rfl
  cases found : lexer.nextToken line 0 state with
  | none =>
      have past := (next_token_none_iff lexer line 0 state).mp found
      exact absurd (List.eq_nil_of_length_eq_zero (Nat.le_zero.mp past)) filled
  | some step =>
      obtain ⟨token, after⟩ := step
      rw [Lexer.lexLine, lex_from_step lexer line 0 state after token found,
        lex_from_step lexer line 0 state.clearPending after token (same.trans found)]

theorem lex_line_tiles (lexer : Lexer) (line : Text) (state : LexState) :
    Tiles line 0 (lexer.lexLine line state).1 line.length :=
  lex_from_tiles lexer line 0 state.clearPending (Nat.zero_le _)

theorem token_run_iff (lexer : Lexer) (line : Text) (state final : LexState) (tokens : List Token) :
    TokenRun lexer line 0 state tokens final ↔
      tokens = (lexer.lexLine line state).1 ∧
        final = if line = [] then state else (lexer.lexLine line state).2 := by
  have whole : ((lexer.lexLine line state).1, if line = [] then state else (lexer.lexLine line state).2) =
      lexer.lexFrom line 0 state := by
    by_cases empty : line = []
    · subst line
      have ended (entered : LexState) : lexer.lexFrom [] 0 entered = ([], entered) :=
        lex_from_end lexer [] 0 entered ((next_token_none_iff lexer [] 0 entered).mpr (Nat.le_refl 0))
      rw [if_pos rfl, Lexer.lexLine, ended, ended]
    · rw [if_neg empty, lex_line_entering lexer line state empty]
  constructor
  · intro run
    have same := token_run_unique lexer line 0 state final tokens run
    rw [← whole] at same
    exact ⟨congrArg Prod.fst same, congrArg Prod.snd same⟩
  · rintro ⟨rfl, rfl⟩
    have run := token_run_exists lexer line 0 state
    rwa [← whole] at run

theorem lex_line_covers_line (lexer : Lexer) (state : LexState) (line : Text) :
    Tiles line 0 (lexer.lexLine line state).1 line.length ∧
      (lexer.lexLine line state).1.flatMap Token.text = line ∧
      (lexer.lexLine line state).1.length ≤ line.length ∧
      ∀ tokens final, TokenRun lexer line 0 state tokens final ↔
        tokens = (lexer.lexLine line state).1 ∧
          final = if line = [] then state else (lexer.lexLine line state).2 := by
  have tiles := lex_line_tiles lexer line state
  refine ⟨tiles, ?_, ?_, fun tokens final => token_run_iff lexer line state final tokens⟩
  · rw [tiles_join line _ 0 line.length tiles, slice_whole]
  · have count := tiles_count line _ 0 line.length tiles
    omega

end FilterAssist
