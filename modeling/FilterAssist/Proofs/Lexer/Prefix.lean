import FilterAssist.Proofs.Lexer.Tiling

set_option autoImplicit false

/-!
The first tokens of a line. The lexer looks past the end of a token only at characters that it does
not take for a quote, so what stands from a quote on has no influence on the tokens before it.
-/
namespace FilterAssist

inductive TokenPath (lexer : Lexer) (line : Text) : Nat → LexState → List Token → Nat → LexState → Prop
  | done (column : Nat) (state : LexState) : TokenPath lexer line column state [] column state
  | step (column stop : Nat) (state after reached : LexState) (token : Token) (tokens : List Token)
      (found : lexer.nextToken line column state = some (token, after))
      (rest : TokenPath lexer line token.stop after tokens stop reached) :
      TokenPath lexer line column state (token :: tokens) stop reached

theorem token_path_lex (lexer : Lexer) (line : Text) (column stop : Nat) (state reached : LexState)
    (tokens : List Token) (path : TokenPath lexer line column state tokens stop reached) :
    lexer.lexFrom line column state =
      (tokens ++ (lexer.lexFrom line stop reached).1, (lexer.lexFrom line stop reached).2) := by
  induction path with
  | done column state => rfl
  | step column stop state after reached token tokens found _ ih =>
      rw [lex_from_step lexer line column state after token found, ih]
      rfl

theorem token_path_ordered (lexer : Lexer) (line : Text) (column stop : Nat) (state reached : LexState)
    (tokens : List Token) (path : TokenPath lexer line column state tokens stop reached) : column ≤ stop := by
  induction path with
  | done column state => exact Nat.le_refl column
  | step column stop state after reached token tokens found _ ih =>
      have span := next_token_span lexer line column state after token found
      omega

theorem token_run_path (lexer : Lexer) (line : Text) (column : Nat) (state final : LexState) (tokens : List Token)
    (run : TokenRun lexer line column state tokens final) :
    ∃ stop, TokenPath lexer line column state tokens stop final := by
  induction run with
  | done column state ended => exact ⟨column, .done column state⟩
  | step column state after final token tokens found _ ih =>
      obtain ⟨stop, path⟩ := ih
      exact ⟨stop, .step column stop state after final token tokens found path⟩

theorem lex_line_path (lexer : Lexer) (line : Text) (state : LexState) :
    ∃ stop, TokenPath lexer line 0 state.clearPending (lexer.lexLine line state).1 stop (lexer.lexLine line state).2 :=
  token_run_path lexer line 0 _ _ _ (token_run_exists lexer line 0 state.clearPending)

theorem lex_from_split (lexer : Lexer) (line : Text) (column : Nat) (state : LexState) (earlier later : List Token)
    (token : Token) (split : (lexer.lexFrom line column state).1 = earlier ++ token :: later) :
    ∃ reached after, TokenPath lexer line column state earlier token.start reached ∧
      lexer.nextToken line token.start reached = some (token, after) := by
  induction earlier generalizing column state with
  | nil =>
      cases found : lexer.nextToken line column state with
      | none =>
          rw [lex_from_end lexer line column state found] at split
          cases split
      | some step =>
          obtain ⟨first, after⟩ := step
          rw [lex_from_step lexer line column state after first found] at split
          obtain ⟨rfl, _⟩ := List.cons.inj split
          have starts := (next_token_span lexer line column state after first found).1
          rw [starts]
          exact ⟨state, after, .done column state, found⟩
  | cons head earlier ih =>
      cases found : lexer.nextToken line column state with
      | none =>
          rw [lex_from_end lexer line column state found] at split
          cases split
      | some step =>
          obtain ⟨first, after⟩ := step
          rw [lex_from_step lexer line column state after first found] at split
          obtain ⟨rfl, rest⟩ := List.cons.inj split
          obtain ⟨reached, last, path, next⟩ := ih first.stop after rest
          exact ⟨reached, last, .step column _ state after reached first earlier found path, next⟩

theorem next_token_blank (lexer : Lexer) (line : Text) (column : Nat) (state : LexState) (c : Char) (rest : Text)
    (shape : line.drop column = c :: rest) (blank : isBlank c = true) :
    lexer.nextToken line column state =
      some (⟨none, c :: rest.takeWhile isBlank, column, column + ((rest.takeWhile isBlank).length + 1)⟩,
        state.entering column) := by
  rw [next_token_eq]
  simp only [Lexer.tokenAt, shape, if_pos blank, List.length_cons, LexState.entering]

theorem next_token_scan (lexer : Lexer) (line : Text) (column : Nat) (state : LexState) (c : Char) (rest : Text)
    (shape : line.drop column = c :: rest) (solid : isBlank c = false) (lexeme : Lexeme)
    (scanned : lexeme = scan lexer.vocabulary state.mode c rest) :
    let token : Token := ⟨lexeme.kind, (c :: rest).take lexeme.length, column, column + lexeme.length⟩
    lexer.nextToken line column state =
      some (token, lexer.track line token
        { state.entering column with mode := lexeme.mode, lastKind := lexeme.kind }) := by
  have sameMode : (if column = 0 then state.clearPending else state).mode = state.mode := entering_mode state column
  rw [next_token_eq]
  simp only [Lexer.tokenAt, shape, solid, Bool.false_eq_true, if_false, sameMode, ← scanned, LexState.entering]

def IsQuote (c : Char) : Prop :=
  c = '"' ∨ c = '\''

theorem take_while_stops (test : Char → Bool) (front tail : Text) (c : Char) (stops : test c = false) :
    (front ++ c :: tail).takeWhile test = front.takeWhile test := by
  induction front with
  | nil => simp [stops]
  | cons d front ih => simp [List.takeWhile_cons, ih]

theorem take_while_local (test : Char → Bool) (front tail other : Text) (c : Char) (takes : test c = true)
    (short : ((front ++ c :: tail).takeWhile test).length ≤ front.length) :
    (front ++ other).takeWhile test = (front ++ c :: tail).takeWhile test := by
  induction front with
  | nil => simp [takes] at short
  | cons d front ih =>
      by_cases taken : test d = true
      · simp only [List.cons_append, List.takeWhile_cons, taken, if_true, List.length_cons,
          Nat.add_le_add_iff_right] at short ⊢
        rw [ih short]
      · simp [taken]

theorem string_stretch_local (quote : Char) (escaped : Bool) (front tail other : Text) (c : Char)
    (short : (stringStretch quote escaped (front ++ c :: tail)).length ≤ front.length) :
    stringStretch quote escaped (front ++ other) = stringStretch quote escaped (front ++ c :: tail) := by
  induction front generalizing escaped with
  | nil =>
      have positive := string_stretch_pos quote escaped c tail
      rw [List.nil_append, List.length_nil] at short
      omega
  | cons d front ih =>
      rw [List.cons_append, List.cons_append, stringStretch, stringStretch]
      by_cases closes : d = quote ∧ escaped = false
      · rw [if_pos closes, if_pos closes]
      · rw [List.cons_append, stringStretch, if_neg closes] at short
        rw [if_neg closes, if_neg closes, ih _ (Nat.le_of_succ_le_succ short)]

theorem comment_stretch_local (front tail other : Text) (c : Char)
    (short : (commentStretch (front ++ c :: tail)).length ≤ front.length) :
    commentStretch (front ++ other) = commentStretch (front ++ c :: tail) := by
  induction front with
  | nil =>
      have positive := comment_stretch_pos c tail
      rw [List.nil_append, List.length_nil] at short
      omega
  | cons d front ih =>
      rw [List.cons_append, List.cons_append, commentStretch, commentStretch]
      rw [List.cons_append, commentStretch] at short
      cases front with
      | nil =>
          -- The end mark has two characters, and only one is left.
          have positive := comment_stretch_pos c tail
          split at short
          · exact absurd short (by simp)
          · simp only [List.nil_append, Stretch.extend, List.length_singleton] at short
            omega
      | cons e front =>
          have same : (e :: front ++ other).head? = (e :: front ++ c :: tail).head? := rfl
          rw [same]
          by_cases closes : d = '*' ∧ (e :: front ++ c :: tail).head? = some '/'
          · rw [if_pos closes, if_pos closes]
          · rw [if_neg closes] at short
            rw [if_neg closes, if_neg closes, ih (Nat.le_of_succ_le_succ short)]

theorem head_severed_iff (front tail : Text) (c d : Char) (different : c ≠ d) :
    (front ++ c :: tail).head? = some d ↔ front.head? = some d := by
  cases front <;> simp [different]

theorem head_severed_any (front tail : Text) (c : Char) (test : Char → Bool) (fails : test c = false) :
    (front ++ c :: tail).head?.any test = front.head?.any test := by
  cases front <;> simp [fails]

-- A character that no number and no comment mark goes on with.
structure Severs (c : Char) : Prop where
  outside : isWordChar c = false
  unpointed : c ≠ '.'
  unsigned : c ≠ '+' ∧ c ≠ '-'
  unmarked : c ≠ '/' ∧ c ≠ '*'

theorem quote_severs (c : Char) (quote : IsQuote c) : Severs c := by
  rcases quote with rfl | rfl <;> exact ⟨by decide, by decide, by decide, by decide⟩

theorem severs_digit (c : Char) (severs : Severs c) : isDigit c = false := by
  have outside := severs.outside
  simp only [isWordChar, Bool.or_eq_false_iff] at outside
  exact outside.1.2

theorem severs_point_digit (c : Char) (severs : Severs c) : isPointDigit c = false := by
  have other (mark : Char) (word : isWordChar mark = true) : c ≠ mark := by
    rintro rfl
    exact absurd (severs.outside.symm.trans word) Bool.false_ne_true
  simp [isPointDigit, severs_digit c severs, other 'e' (by decide), other 'E' (by decide)]

theorem sign_length_severed (front tail : Text) (c : Char) (severs : Severs c) :
    signLength (front ++ c :: tail) = signLength front := by
  have plus := head_severed_iff front tail c '+' severs.unsigned.1
  have minus := head_severed_iff front tail c '-' severs.unsigned.2
  simp only [signLength, plus, minus]

theorem sign_length_fits (text : Text) : signLength text ≤ text.length := by
  cases text with
  | nil => exact Nat.le_refl 0
  | cons c rest =>
      unfold signLength
      split <;> simp

theorem exponent_length_severed (front tail : Text) (c : Char) (severs : Severs c) :
    exponentLength (front ++ c :: tail) = exponentLength front := by
  have digit := severs_digit c severs
  cases front with
  | nil =>
      have unmarked := severs_point_digit c severs
      simp only [isPointDigit, Bool.or_eq_false_iff, beq_eq_false_iff_ne] at unmarked
      simp [exponentLength, unmarked]
  | cons mark front =>
      simp only [List.cons_append, exponentLength, sign_length_severed front tail c severs]
      rw [List.drop_append_of_le_length (sign_length_fits front), take_while_stops isDigit _ _ c digit]

theorem fraction_length_severed (front tail : Text) (c : Char) (severs : Severs c) :
    fractionLength (front ++ c :: tail) = fractionLength front := by
  have digit := severs_digit c severs
  cases front with
  | nil => simp [fractionLength, severs.unpointed]
  | cons point front =>
      simp only [List.cons_append, fractionLength, take_while_stops isDigit _ _ c digit]
      rw [List.drop_append_of_le_length (take_while_fits isDigit front), exponent_length_severed _ _ c severs]

theorem scan_word_takes_word (vocabulary : Vocabulary) (c : Char) (rest : Text) :
    (rest.takeWhile fun other => !isBlank other && !isBracket other).length + 1 ≤
      (scanWord vocabulary c rest).length := by
  have longer : (rest.takeWhile fun other => !isBlank other && !isBracket other).length ≤
      (rest.takeWhile fun other => !isBlank other).length := by
    induction rest with
    | nil => exact Nat.le_refl 0
    | cons d rest ih =>
        simp only [List.takeWhile_cons]
        cases isBlank d <;> cases isBracket d <;> simp [ih]
  simp only [scanWord]
  split
  · exact Nat.le_refl _
  · split
    · exact Nat.succ_le_succ longer
    · exact Nat.le_refl _

theorem scan_word_local (vocabulary : Vocabulary) (d : Char) (front tail other : Text) (c : Char) (quote : IsQuote c)
    (short : (scanWord vocabulary d (front ++ c :: tail)).length ≤ front.length + 1) :
    scanWord vocabulary d (front ++ other) = scanWord vocabulary d (front ++ c :: tail) := by
  have inWord : (!isBlank c && !isBracket c) = true := by rcases quote with rfl | rfl <;> decide
  have solid : (!isBlank c) = true := by rcases quote with rfl | rfl <;> decide
  have covered := scan_word_takes_word vocabulary d (front ++ c :: tail)
  have word := take_while_local (fun other => !isBlank other && !isBracket other) front tail other c inWord (by omega)
  simp only [scanWord, word] at short ⊢
  split
  · rfl
  · rename_i unled
    rw [unled] at short
    dsimp only at short
    split
    · rename_i starts
      rw [if_pos starts, List.length_cons] at short
      rw [take_while_local (fun other => !isBlank other) front tail other c solid (Nat.le_of_succ_le_succ short)]
    · rfl

theorem scan_plain_local (vocabulary : Vocabulary) (d : Char) (front tail more : Text) (c e : Char) (quote : IsQuote c)
    (other : IsQuote e) (short : (scanPlain vocabulary d (front ++ c :: tail)).length ≤ front.length + 1) :
    scanPlain vocabulary d (front ++ e :: more) = scanPlain vocabulary d (front ++ c :: tail) := by
  have slash (c : Char) (tail : Text) (quote : IsQuote c) := head_severed_iff front tail c '/' (quote_severs c quote).unmarked.1
  have star (c : Char) (tail : Text) (quote : IsQuote c) := head_severed_iff front tail c '*' (quote_severs c quote).unmarked.2
  have word (c : Char) (tail : Text) (quote : IsQuote c) := head_severed_any front tail c isWordChar
    (quote_severs c quote).outside
  have point (c : Char) (tail : Text) (quote : IsQuote c) := head_severed_any front tail c isPointDigit
    (severs_point_digit c (quote_severs c quote))
  have pointRun (c : Char) (tail : Text) (quote : IsQuote c) := take_while_stops isPointDigit front tail c
    (severs_point_digit c (quote_severs c quote))
  have fraction (c : Char) (tail : Text) (quote : IsQuote c) := fraction_length_severed front tail c (quote_severs c quote)
  simp only [scanPlain, slash c tail quote, slash e more other, star c tail quote, star e more other,
    word c tail quote, word e more other, point c tail quote, point e more other, pointRun c tail quote,
    pointRun e more other, fraction c tail quote, fraction e more other] at short ⊢
  by_cases opens : d = '(' ∨ d = '{'
  · simp only [if_pos opens]
  by_cases closes : d = ')' ∨ d = '}'
  · simp only [if_neg opens, if_pos closes]
  by_cases string : d = '"' ∨ d = '\''
  · simp only [if_neg opens, if_neg closes, if_pos string] at short ⊢
    rw [string_stretch_local d false front tail (e :: more) c (Nat.le_of_succ_le_succ short)]
  by_cases line : d = '/' ∧ front.head? = some '/'
  · -- A line comment takes all there is, so it cannot end before the quote.
    simp only [if_neg opens, if_neg closes, if_neg string, if_pos line, List.length_append, List.length_cons] at short
    omega
  by_cases block : d = '/' ∧ front.head? = some '*'
  · obtain ⟨body, rfl⟩ := List.head?_eq_some_iff.mp block.2
    simp only [if_neg opens, if_neg closes, if_neg string, if_neg line, if_pos block, List.cons_append,
      List.drop_succ_cons, List.drop_zero, List.length_cons] at short ⊢
    rw [comment_stretch_local body tail (e :: more) c (by omega)]
  by_cases number : isDigit d = true ∧ front.head?.any isWordChar = false
  · simp only [if_neg opens, if_neg closes, if_neg string, if_neg line, if_neg block, if_pos number]
  by_cases fraction : d = '.' ∧ front.head?.any isPointDigit = true
  · simp only [if_neg opens, if_neg closes, if_neg string, if_neg line, if_neg block, if_neg number, if_pos fraction]
  · simp only [if_neg opens, if_neg closes, if_neg string, if_neg line, if_neg block, if_neg number,
      if_neg fraction] at short ⊢
    exact scan_word_local vocabulary d front tail (e :: more) c quote short

theorem scan_local (vocabulary : Vocabulary) (mode : LexMode) (d : Char) (front tail more : Text) (c e : Char)
    (quote : IsQuote c) (other : IsQuote e)
    (short : (scan vocabulary mode d (front ++ c :: tail)).length ≤ front.length + 1) :
    scan vocabulary mode d (front ++ e :: more) = scan vocabulary mode d (front ++ c :: tail) := by
  cases mode with
  | plain => exact scan_plain_local vocabulary d front tail more c e quote other short
  | inString mark =>
      have body := string_stretch_local mark false (d :: front) tail (e :: more) c short
      rw [List.cons_append, List.cons_append] at body
      simp only [scan, body]
  | inComment =>
      have body := comment_stretch_local (d :: front) tail (e :: more) c short
      rw [List.cons_append, List.cons_append] at body
      simp only [scan, body]

theorem track_same_line (lexer : Lexer) (one two : Text) (token : Token) (state : LexState)
    (blanks : one.takeWhile isBlank = two.takeWhile isBlank) (front : one.take token.start = two.take token.start) :
    lexer.track one token state = lexer.track two token state := by
  simp only [Lexer.track, indentation_blanks, wordColumn, blanks, front]

theorem track_local (lexer : Lexer) (front tail more : Text) (c e : Char) (token : Token) (state : LexState)
    (quote : IsQuote c) (other : IsQuote e) (starts : token.start ≤ front.length) :
    lexer.track (front ++ e :: more) token state = lexer.track (front ++ c :: tail) token state := by
  have solid (c : Char) (tail : Text) (quote : IsQuote c) := take_while_stops isBlank front tail c
    (by rcases quote with rfl | rfl <;> decide)
  have column (rest : Text) : (front ++ rest).take token.start = front.take token.start :=
    List.take_append_of_le_length starts
  apply track_same_line
  · rw [solid c tail quote, solid e more other]
  · rw [column, column]

theorem next_token_local (lexer : Lexer) (front tail more : Text) (c e : Char) (column : Nat) (state after : LexState)
    (token : Token) (quote : IsQuote c) (other : IsQuote e)
    (found : lexer.nextToken (front ++ c :: tail) column state = some (token, after))
    (ends : token.stop ≤ front.length) :
    lexer.nextToken (front ++ e :: more) column state = some (token, after) := by
  have span := next_token_span lexer _ column state after token found
  have entered : column < front.length := by omega
  obtain ⟨d, rest, shape⟩ : ∃ d rest, front.drop column = d :: rest :=
    ⟨_, _, List.drop_eq_getElem_cons entered⟩
  have width : front.length = column + (rest.length + 1) := by
    have counted := congrArg List.length shape
    rw [List.length_drop, List.length_cons] at counted
    omega
  have cut (suffix : Text) : (front ++ suffix).drop column = d :: (rest ++ suffix) := by
    rw [List.drop_append_of_le_length (Nat.le_of_lt entered), shape, List.cons_append]
  obtain ⟨first, remainder, same, step⟩ := next_token_cases lexer _ column state after token found
  obtain ⟨rfl, rfl⟩ := List.cons.inj ((cut _).symm.trans same)
  rcases step with ⟨blank, rfl, rfl⟩ | ⟨lexeme, solid, scanned, rfl, rfl⟩
  · have run (c : Char) (tail : Text) (quote : IsQuote c) := take_while_stops isBlank rest tail c
      (by rcases quote with rfl | rfl <;> decide)
    rw [next_token_blank lexer _ column state d _ (cut _) blank, run c tail quote, run e more other]
  · have short : lexeme.length ≤ rest.length + 1 := by
      dsimp only at ends
      omega
    have again : lexeme = scan lexer.vocabulary state.mode d (rest ++ e :: more) := by
      rw [scanned] at short
      rw [scan_local lexer.vocabulary state.mode d rest tail more c e quote other short, scanned]
    have text (suffix : Text) : (d :: (rest ++ suffix)).take lexeme.length = (d :: rest).take lexeme.length := by
      rw [← List.cons_append]
      exact List.take_append_of_le_length short
    rw [next_token_scan lexer _ column state d _ (cut _) solid lexeme again, text, text]
    rw [track_local lexer front tail more c e _ _ quote other (Nat.le_of_lt entered)]

theorem token_path_local (lexer : Lexer) (front tail more : Text) (c e : Char) (column stop : Nat)
    (state reached : LexState) (tokens : List Token) (quote : IsQuote c) (other : IsQuote e)
    (path : TokenPath lexer (front ++ c :: tail) column state tokens stop reached) (ends : stop ≤ front.length) :
    TokenPath lexer (front ++ e :: more) column state tokens stop reached := by
  induction path with
  | done column state => exact .done column state
  | step column stop state after reached token tokens found rest ih =>
      have ordered := token_path_ordered lexer _ _ _ _ _ _ rest
      have again := next_token_local lexer front tail more c e column state after token quote other found (by omega)
      exact .step column stop state after reached token tokens again (ih ends)

end FilterAssist
