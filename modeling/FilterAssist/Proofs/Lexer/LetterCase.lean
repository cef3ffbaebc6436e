import Mathlib
import FilterAssist.Proofs.Lexer.Brackets
import FilterAssist.Proofs.Lexer.OpenLines
import FilterAssist.Proofs.Text.LetterCase

set_option autoImplicit false

/-!
Lexing does not see the case of ASCII letters. Lowering the letters of a line lowers the texts of its
tokens and changes nothing else, so two lines that agree once they are lowered have the same tokens up to
letter case and lead to the same state.
-/
namespace FilterAssist

theorem lower_word_char (c : Char) : isWordChar c.toLower = isWordChar c :=
  lower_invariant isWordChar (by decide) c

theorem lower_point_digit (c : Char) : isPointDigit c.toLower = isPointDigit c :=
  lower_invariant isPointDigit (by decide) c

theorem lower_bracket (c : Char) : isBracket c.toLower = isBracket c :=
  lower_invariant isBracket (by decide) c

theorem string_stretch_lower (quote : Char) (escaped : Bool) (text : Text) (mark : IsQuote quote) :
    stringStretch quote escaped text.asciiLower = stringStretch quote escaped text := by
  have other : isLetter quote = false := by rcases mark with rfl | rfl <;> decide
  induction text generalizing escaped with
  | nil => rfl
  | cons c rest ih =>
      have backslash : (c.toLower == '\\') = (c == '\\') := by
        rw [Bool.eq_iff_iff, beq_iff_eq, beq_iff_eq, lower_eq_iff '\\' (by decide)]
      simp only [lower_cons, stringStretch, lower_eq_iff quote other, backslash, ih]

theorem comment_stretch_lower (text : Text) : commentStretch text.asciiLower = commentStretch text := by
  induction text with
  | nil => rfl
  | cons c rest ih =>
      simp only [lower_cons, commentStretch, lower_eq_iff '*' (by decide), lower_head_iff '/' (by decide), ih]

theorem sign_length_lower (text : Text) : signLength text.asciiLower = signLength text := by
  simp only [signLength, lower_head_iff '+' (by decide), lower_head_iff '-' (by decide)]

theorem exponent_length_lower (text : Text) : exponentLength text.asciiLower = exponentLength text := by
  cases text with
  | nil => rfl
  | cons mark rest =>
      have marked : (mark.toLower = 'e' ∨ mark.toLower = 'E') ↔ (mark = 'e' ∨ mark = 'E') := by
        have view := lower_invariant (fun c => decide (c = 'e' ∨ c = 'E')) (by decide) mark
        simpa only [decide_eq_decide] using view
      simp only [lower_cons, exponentLength, marked, sign_length_lower, lower_drop, lower_take_while isDigit lower_digit, lower_length]

theorem fraction_length_lower (text : Text) : fractionLength text.asciiLower = fractionLength text := by
  cases text with
  | nil => rfl
  | cons point rest =>
      simp only [lower_cons, fractionLength, lower_eq_iff '.' (by decide), lower_take_while isDigit lower_digit,
        lower_length, lower_drop, exponent_length_lower]

theorem scan_word_lower (vocabulary : Vocabulary) (c : Char) (rest : Text) :
    scanWord vocabulary c.toLower rest.asciiLower = scanWord vocabulary c rest := by
  have word := lower_take_while (fun other => !isBlank other && !isBracket other)
    (fun other => by rw [lower_blank, lower_bracket]) rest
  have whole := lower_take_while (fun other => !isBlank other) (fun other => by rw [lower_blank]) rest
  simp only [scanWord, word, whole, ← lower_cons, lower_case_lower, lower_length]

theorem scan_plain_lower (vocabulary : Vocabulary) (c : Char) (rest : Text) :
    scanPlain vocabulary c.toLower rest.asciiLower = scanPlain vocabulary c rest := by
  have mark (mark : Char) (other : isLetter mark = false) := lower_eq_iff mark other c
  simp only [scanPlain, mark '(' (by decide), mark ')' (by decide), mark '{' (by decide), mark '}' (by decide),
    mark '"' (by decide), mark '\'' (by decide), mark '/' (by decide), mark '.' (by decide),
    lower_head_iff '/' (by decide), lower_head_iff '*' (by decide), lower_head_any isWordChar lower_word_char,
    lower_head_any isPointDigit lower_point_digit, lower_digit, lower_length, lower_drop, comment_stretch_lower,
    fraction_length_lower, lower_take_while isPointDigit lower_point_digit, scan_word_lower]
  by_cases string : c = '"' ∨ c = '\''
  · have same : c.toLower = c := by rcases string with rfl | rfl <;> rfl
    rw [same, string_stretch_lower c false rest string]
  · simp only [if_neg string]

theorem scan_lower (vocabulary : Vocabulary) (mode : LexMode) (c : Char) (rest : Text)
    (marked : ∀ quote, mode = .inString quote → IsQuote quote) :
    scan vocabulary mode c.toLower rest.asciiLower = scan vocabulary mode c rest := by
  cases mode with
  | plain => exact scan_plain_lower vocabulary c rest
  | inString quote => simp only [scan, ← lower_cons, string_stretch_lower quote false (c :: rest) (marked quote rfl)]
  | inComment => simp only [scan, ← lower_cons, comment_stretch_lower]

def Token.lowered (token : Token) : Token :=
  { token with text := token.text.asciiLower }

theorem closing_of_lowered (token : Token) : closingOf token.lowered = closingOf token := by
  obtain ⟨kind, text, start, stop⟩ := token
  match text with
  | [] => rfl
  | [c] =>
      by_cases round : c = '('
      · rw [round]
        rfl
      by_cases curly : c = '{'
      · rw [curly]
        rfl
      have stays (mark : Char) (other : isLetter mark = false) (different : c ≠ mark) : c.toLower ≠ mark :=
        fun same => different ((lower_eq_iff mark other c).mp same)
      simp [closingOf, Token.lowered, Text.asciiLower, round, curly, stays '(' (by decide) round,
        stays '{' (by decide) curly]
  | c :: d :: rest => simp [closingOf, Token.lowered, Text.asciiLower]

theorem track_lower (lexer : Lexer) (line : Text) (token : Token) (state : LexState)
    (closes : token.kind = some .closeBracket → token.text.asciiLower = token.text) :
    lexer.track line.asciiLower token.lowered state = lexer.track line token state := by
  -- The text of a closing bracket is compared with the frames, so it has to be one that lowering keeps.
  by_cases closed : token.kind = some .closeBracket
  · have same : token.lowered = token := by rw [Token.lowered, closes closed]
    simp only [same, Lexer.track, indentation_lower, word_column_lower]
  · obtain ⟨kind, text, start, stop⟩ := token
    simp only [Lexer.track, closing_of_lowered, indentation_lower, word_column_lower]
    cases kind with
    | none => rfl
    | some kind => cases kind <;> first | rfl | exact absurd rfl closed

theorem next_token_lower (lexer : Lexer) (line : Text) (column : Nat) (state after : LexState) (token : Token)
    (marked : state.Marked) (found : lexer.nextToken line column state = some (token, after)) :
    lexer.nextToken line.asciiLower column state = some (token.lowered, after) := by
  obtain ⟨c, rest, shape, step⟩ := next_token_cases lexer line column state after token found
  have lowered : line.asciiLower.drop column = c.toLower :: Text.asciiLower rest := by
    rw [lower_drop, shape, lower_cons]
  rcases step with ⟨blank, rfl, rfl⟩ | ⟨lexeme, solid, scanned, rfl, rfl⟩
  · rw [next_token_blank lexer _ column state _ _ lowered (by rwa [lower_blank]),
      lower_take_while isBlank lower_blank, lower_length]
    rfl
  · have again : lexeme = scan lexer.vocabulary state.mode c.toLower (Text.asciiLower rest) := by
      rw [scan_lower lexer.vocabulary state.mode c rest marked, scanned]
    have text : (c.toLower :: Text.asciiLower rest).take lexeme.length = Text.asciiLower ((c :: rest).take lexeme.length) := by
      rw [← lower_cons, lower_take]
    have closes : lexeme.kind = some .closeBracket →
        Text.asciiLower ((c :: rest).take lexeme.length) = (c :: rest).take lexeme.length := by
      intro closed
      rw [scanned] at closed ⊢
      obtain ⟨bracket, single⟩ := scan_closing_bracket lexer.vocabulary state.mode c rest closed
      rw [single]
      rcases bracket with rfl | rfl <;> rfl
    rw [next_token_scan lexer _ column state _ _ lowered (by rwa [lower_blank]) lexeme again, text]
    exact congrArg (fun after => some (_, after)) (track_lower lexer line
      ⟨lexeme.kind, (c :: rest).take lexeme.length, column, column + lexeme.length⟩ _ closes)

theorem token_run_lower (lexer : Lexer) (line : Text) (column : Nat) (state final : LexState) (tokens : List Token)
    (marked : state.Marked) (run : TokenRun lexer line column state tokens final) :
    TokenRun lexer line.asciiLower column state (tokens.map Token.lowered) final := by
  induction run with
  | done column state ended =>
      have past := (next_token_none_iff lexer line column state).mp ended
      rw [← lower_length] at past
      exact .done column state ((next_token_none_iff lexer _ column state).mpr past)
  | step column state after final token tokens found _ ih =>
      have next := next_token_lower lexer line column state after token marked found
      exact .step column state after final token.lowered _ next
        (ih (next_token_marked lexer line column state after token found marked))

theorem lex_line_lower (lexer : Lexer) (line : Text) (state : LexState) (marked : state.Marked) :
    lexer.lexLine line.asciiLower state =
      ((lexer.lexLine line state).1.map Token.lowered, (lexer.lexLine line state).2) := by
  have run := token_run_lower lexer line 0 state.clearPending _ _ marked (token_run_exists lexer line 0 state.clearPending)
  exact (token_run_unique lexer line.asciiLower 0 state.clearPending _ _ run).symm

theorem lex_line_ignores_case (lexer : Lexer) (state : LexState) (line other : Text)
    (marked : state.mode = .plain ∨ state.mode = .inComment ∨ state.mode = .inString '"' ∨ state.mode = .inString '\'')
    (alike : line.asciiLower = other.asciiLower) :
    (lexer.lexLine line state).1.map Token.lowered = (lexer.lexLine other state).1.map Token.lowered ∧
      (lexer.lexLine line state).2 = (lexer.lexLine other state).2 := by
  have quotes : state.Marked := by
    intro quote inside
    rcases marked with mode | mode | mode | mode <;> rw [mode] at inside <;> cases inside
    · exact .inl rfl
    · exact .inr rfl
  have one := lex_line_lower lexer line state quotes
  rw [alike, lex_line_lower lexer other state quotes] at one
  exact ⟨(congrArg Prod.fst one).symm, (congrArg Prod.snd one).symm⟩

theorem lex_line_ignores_case_in_exponent :
    let lists : WordLists := { operators := ["In".toList] }
    let lexer : Lexer := { vocabulary := Vocabulary.ofLists lists }
    let state : LexState := { mode := .inString '\'' }
    let line := "B' IN(.5E3".toList
    let other := "b' iN(.5e3".toList
    state.mode = .inString '\'' ∧ Text.asciiLower line = Text.asciiLower other ∧
      (lexer.lexLine line state).1.map Token.kind =
        [some .string, none, some .operator, some .openBracket, some .number] ∧
      (lexer.lexLine line state).1.map Token.lowered = (lexer.lexLine other state).1.map Token.lowered ∧
      (lexer.lexLine line state).2 = (lexer.lexLine other state).2 := by
  intro lists lexer state line other
  have alike : Text.asciiLower line = Text.asciiLower other := by decide
  refine ⟨rfl, alike, ?_, lex_line_ignores_case lexer state line other (.inr (.inr (.inr rfl))) alike⟩
  unfold lexer lists line
  cbv

end FilterAssist
