import FilterAssist.Proofs.Lexer.Lines
import FilterAssist.Proofs.Lexer.Strings

set_option autoImplicit false

/-!
Lines that start inside a string or a block comment. Blanks at the front are a token of their own; what
follows them belongs to the string or comment up to its end mark, or up to the end of the line.
-/
namespace FilterAssist

def LexMode.stretch : LexMode → Text → Stretch
  | .plain, _ => ⟨0, true⟩
  | .inString quote, line => stringStretch quote false line
  | .inComment, line => commentStretch line

def LexState.Marked (state : LexState) : Prop :=
  ∀ quote, state.mode = .inString quote → IsQuote quote

theorem mode_after_in_string (body : Stretch) (quote other : Char)
    (inside : body.modeAfter (.inString quote) = .inString other) : quote = other := by
  unfold Stretch.modeAfter at inside
  split at inside
  · cases inside
  · exact LexMode.inString.inj inside

theorem next_token_marked (lexer : Lexer) (line : Text) (column : Nat) (state after : LexState) (token : Token)
    (found : lexer.nextToken line column state = some (token, after)) (marked : state.Marked) : after.Marked := by
  obtain ⟨c, rest, _, step⟩ := next_token_cases lexer line column state after token found
  intro quote inside
  rcases step with ⟨_, rfl, rfl⟩ | ⟨lexeme, _, scanned, rfl, rfl⟩
  · rw [entering_mode] at inside
    exact marked quote inside
  · rw [track_mode, scanned] at inside
    change (scan lexer.vocabulary state.mode c rest).mode = .inString quote at inside
    have string := scan_in_string lexer.vocabulary state.mode c rest quote inside
    cases mode : state.mode with
    | plain =>
        rw [mode] at inside string
        obtain ⟨mark, whole⟩ := scan_plain_string lexer.vocabulary c rest string
        rw [scan, whole] at inside
        rwa [← mode_after_in_string _ c quote inside]
    | inString opened =>
        rw [mode] at inside
        rw [← mode_after_in_string _ opened quote inside]
        exact marked opened mode
    | inComment =>
        rw [mode] at string
        cases string

theorem token_steps_marked (lexer : Lexer) (state reached : LexState) (tokens : List Token)
    (steps : TokenSteps lexer state tokens reached) (marked : state.Marked) : reached.Marked := by
  induction steps with
  | done state => exact marked
  | newLine state reached tokens _ ih => exact ih marked
  | token line column state after reached token tokens found _ ih =>
      exact ih (next_token_marked lexer line column state after token found marked)

theorem fresh_state_marked (buffer : Buffer) (fresh : buffer.Fresh) (line : Nat) (state : LexState)
    (found : buffer.states[line]? = some state) : state.Marked := by
  obtain ⟨tokens, steps⟩ := fresh_state_steps buffer fresh line state found
  exact token_steps_marked buffer.lexer .start state tokens steps (fun quote inside => by cases inside)

theorem stretch_after_blanks (mode : LexMode) (blanks rest : Text) (inside : mode ≠ .plain)
    (marked : ∀ quote, mode = .inString quote → IsQuote quote) (blank : ∀ c ∈ blanks, isBlank c = true) :
    (mode.stretch (blanks ++ rest)).length = blanks.length + (mode.stretch rest).length := by
  induction blanks with
  | nil => rw [List.nil_append, List.length_nil, Nat.zero_add]
  | cons c blanks ih =>
      have first := blank c List.mem_cons_self
      have later := ih (fun other member => blank other (List.mem_cons_of_mem c member))
      cases mode with
      | plain => exact absurd rfl inside
      | inString quote =>
          have other : c ≠ quote := by
            rintro rfl
            rcases marked c rfl with rfl | rfl <;> exact absurd first (by decide)
          have unescaped : (c == '\\') = false := by
            rw [beq_eq_false_iff_ne]
            rintro rfl
            exact absurd first (by decide)
          simp only [LexMode.stretch] at later ⊢
          rw [List.cons_append, stringStretch, if_neg (fun closes => other closes.1), unescaped, Bool.and_false,
            Stretch.extend, later, List.length_cons]
          dsimp only
          omega
      | inComment =>
          have other : c ≠ '*' := by
            rintro rfl
            exact absurd first (by decide)
          simp only [LexMode.stretch] at later ⊢
          rw [List.cons_append, commentStretch, if_neg (fun closes => other closes.1), Stretch.extend, later,
            List.length_cons]
          dsimp only
          omega

theorem lex_line_blanks (lexer : Lexer) (line : Text) (state : LexState) (c : Char) (rest : Text)
    (blanks : line.takeWhile isBlank = c :: rest) :
    (lexer.lexLine line state).1 =
      ⟨none, c :: rest, 0, rest.length + 1⟩ :: (lexer.lexFrom line (rest.length + 1) state.clearPending).1 := by
  cases line with
  | nil => cases blanks
  | cons first line =>
      rw [List.takeWhile_cons] at blanks
      split at blanks
      · rename_i blank
        obtain ⟨rfl, run⟩ := List.cons.inj blanks
        have step := next_token_blank lexer (first :: line) 0 state.clearPending first line rfl blank
        rw [run, Nat.zero_add] at step
        rw [Lexer.lexLine, lex_from_step lexer _ 0 _ _ _ step]
        rfl
      · cases blanks

theorem next_token_open (lexer : Lexer) (line : Text) (column : Nat) (state : LexState) (c : Char) (rest : Text)
    (shape : line.drop column = c :: rest) (solid : isBlank c = false) (inside : state.mode ≠ .plain) :
    ∃ token after, lexer.nextToken line column state = some (token, after) ∧ token.start = column ∧
      token.stop = column + (state.mode.stretch (c :: rest)).length ∧
      (token.kind = some .string ∨ token.kind = some .comment) := by
  refine ⟨_, _, next_token_scan lexer line column state c rest shape solid _ rfl, rfl, ?_⟩
  cases mode : state.mode with
  | plain => exact absurd mode inside
  | inString quote => exact ⟨rfl, .inl rfl⟩
  | inComment => exact ⟨rfl, .inr rfl⟩

theorem lex_line_open (lexer : Lexer) (line : Text) (state : LexState) (c : Char) (rest : Text)
    (solid : line.dropWhile isBlank = c :: rest) (inside : state.mode ≠ .plain) :
    ∃ earlier token later, (lexer.lexLine line state).1 = earlier ++ token :: later ∧
      token.start = (line.takeWhile isBlank).length ∧
      token.stop = (line.takeWhile isBlank).length + (state.mode.stretch (c :: rest)).length ∧
      (token.kind = some .string ∨ token.kind = some .comment) := by
  have first : isBlank c = false := by
    have kept := List.head?_dropWhile_not isBlank line
    rwa [solid] at kept
  have shape : line.drop (line.takeWhile isBlank).length = c :: rest := by
    have parts : line.takeWhile isBlank ++ line.dropWhile isBlank = line := List.takeWhile_append_dropWhile
    rw [← solid]
    exact (congrArg (List.drop _) parts.symm).trans List.drop_left
  obtain ⟨token, after, next, starts, stops, kind⟩ :=
    next_token_open lexer line _ state.clearPending c rest shape first inside
  have step := lex_from_step lexer line _ state.clearPending after token next
  cases blanks : line.takeWhile isBlank with
  | nil =>
      rw [blanks] at step starts stops
      refine ⟨[], token, (lexer.lexFrom line token.stop after).1, ?_, starts, stops, kind⟩
      rw [Lexer.lexLine]
      exact congrArg Prod.fst step
  | cons b run =>
      rw [blanks] at step starts stops
      refine ⟨[⟨none, b :: run, 0, run.length + 1⟩], token, (lexer.lexFrom line token.stop after).1, ?_, starts, stops, kind⟩
      rw [lex_line_blanks lexer line state b run blanks]
      exact congrArg (List.cons _) (congrArg Prod.fst step)

end FilterAssist
