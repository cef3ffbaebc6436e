import FilterAssist.Proofs.Buffer.Relex
import FilterAssist.Proofs.Lexer.Prefix

set_option autoImplicit false

/-!
Lines lexed one after the other, each from the state that the line before it left. Whatever state is
met on the way, two kinds of steps lead to it: the next token of a line, and the start of a line.
-/
namespace FilterAssist

def Lexer.lexLines (lexer : Lexer) : List Text → LexState → List (List Token) × LexState
  | [], state => ([], state)
  | line :: lines, state =>
    let lexed := lexer.lexLine line state
    let rest := lexer.lexLines lines lexed.2
    (lexed.1 :: rest.1, rest.2)

-- The lines and columns are left open: no step can tell how the state before it was reached.
inductive TokenSteps (lexer : Lexer) : LexState → List Token → LexState → Prop
  | done (state : LexState) : TokenSteps lexer state [] state
  | newLine (state reached : LexState) (tokens : List Token)
      (rest : TokenSteps lexer state.clearPending tokens reached) : TokenSteps lexer state tokens reached
  | token (line : Text) (column : Nat) (state after reached : LexState) (token : Token) (tokens : List Token)
      (found : lexer.nextToken line column state = some (token, after))
      (rest : TokenSteps lexer after tokens reached) : TokenSteps lexer state (token :: tokens) reached

theorem token_steps_append (lexer : Lexer) (state middle reached : LexState) (earlier later : List Token)
    (first : TokenSteps lexer state earlier middle) (second : TokenSteps lexer middle later reached) :
    TokenSteps lexer state (earlier ++ later) reached := by
  induction first with
  | done state => exact second
  | newLine state middle tokens _ ih => exact .newLine state reached _ (ih second)
  | token line column state after middle token tokens found _ ih =>
      exact .token line column state after reached token _ found (ih second)

theorem token_path_steps (lexer : Lexer) (line : Text) (column stop : Nat) (state reached : LexState)
    (tokens : List Token) (path : TokenPath lexer line column state tokens stop reached) :
    TokenSteps lexer state tokens reached := by
  induction path with
  | done column state => exact .done state
  | step column stop state after reached token tokens found _ ih =>
      exact .token line column state after reached token tokens found ih

theorem token_path_split (lexer : Lexer) (line : Text) (column stop : Nat) (state reached : LexState)
    (earlier later : List Token) (path : TokenPath lexer line column state (earlier ++ later) stop reached) :
    ∃ place middle, TokenPath lexer line column state earlier place middle := by
  induction earlier generalizing column state with
  | nil => exact ⟨column, state, .done column state⟩
  | cons token earlier ih =>
      cases path with
      | step _ _ _ after _ _ _ found rest =>
          obtain ⟨place, middle, walked⟩ := ih token.stop after rest
          exact ⟨place, middle, .step column place state after middle token earlier found walked⟩

def Lexer.Visits (lexer : Lexer) (line : Text) (state reached : LexState) : Prop :=
  ∃ tokens stop, TokenPath lexer line 0 state.clearPending tokens stop reached

theorem lex_line_visited (lexer : Lexer) (line : Text) (state : LexState) :
    lexer.Visits line state (lexer.lexLine line state).2 :=
  ⟨_, lex_line_path lexer line state⟩

theorem lex_line_steps (lexer : Lexer) (line : Text) (state : LexState) :
    TokenSteps lexer state (lexer.lexLine line state).1 (lexer.lexLine line state).2 := by
  obtain ⟨stop, path⟩ := lex_line_path lexer line state
  exact .newLine state _ _ (token_path_steps lexer line 0 stop _ _ _ path)

theorem lex_lines_steps (lexer : Lexer) (lines : List Text) (state : LexState) :
    TokenSteps lexer state (lexer.lexLines lines state).1.flatten (lexer.lexLines lines state).2 := by
  induction lines generalizing state with
  | nil => exact .done state
  | cons line lines ih =>
      exact token_steps_append lexer state _ _ _ _ (lex_line_steps lexer line state) (ih (lexer.lexLine line state).2)

theorem fresh_state_steps (buffer : Buffer) (fresh : buffer.Fresh) (line : Nat) (state : LexState)
    (found : buffer.states[line]? = some state) : ∃ tokens, TokenSteps buffer.lexer .start tokens state := by
  induction line generalizing state with
  | zero =>
      cases found
      exact ⟨[], .done LexState.start⟩
  | succ line ih =>
      rw [Buffer.states, List.getElem?_cons_succ, List.getElem?_map, Option.map_eq_some_iff] at found
      obtain ⟨row, present, rfl⟩ := found
      obtain ⟨before, start, lexed⟩ := lexed_row buffer.lexer .start buffer.rows line row fresh.lexed present
      obtain ⟨tokens, steps⟩ := ih before start
      have after : row.after = (buffer.lexer.lexLine row.text before).2.clearPending := congrArg BufferLine.after lexed
      have ended : TokenSteps buffer.lexer (buffer.lexer.lexLine row.text before).2 [] row.after := by
        rw [after]
        exact .newLine _ _ _ (.done _)
      exact ⟨_, token_steps_append _ _ _ _ _ _ steps
        (token_steps_append _ _ _ _ _ _ (lex_line_steps buffer.lexer row.text before) ended)⟩

end FilterAssist
