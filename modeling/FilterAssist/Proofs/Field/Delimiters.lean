import Mathlib
import FilterAssist.Field
import FilterAssist.Proofs.Buffer.RelexedRange
import FilterAssist.Proofs.Document.NearestToken
import FilterAssist.Proofs.Lexer.Prefix
import FilterAssist.Proofs.Lexer.Strings

set_option autoImplicit false

/-!
A field's token is a whole string argument: it starts with its opening quote, and taking the quotes
off removes the two that the lexer read as such, or the one if the string is not closed on its line.
-/
namespace FilterAssist

theorem ends_escaped_concat (text : Text) (c : Char) :
    endsEscaped (text ++ [c]) = (!endsEscaped text && c == '\\') := by
  rw [endsEscaped, endsEscaped, List.reverse_concat, List.takeWhile_cons]
  by_cases backslash : c = '\\'
  · rw [if_pos (by simp [backslash]), List.length_cons]
    generalize (text.reverse.takeWhile (· == '\\')).length = count
    rcases Nat.mod_two_eq_zero_or_one count with even | odd
    · have next : (count + 1) % 2 = 1 := by omega
      simp [even, next, backslash]
    · have next : (count + 1) % 2 = 0 := by omega
      simp [odd, next]
  · simp [backslash]

theorem escapes_ends (text : Text) : escapes false text = endsEscaped text := by
  induction text using List.reverseRecOn with
  | nil => rfl
  | append_singleton text c ih =>
      rw [ends_escaped_concat, ← ih, escapes, List.foldl_append]
      rfl

theorem unquote_closed (quote : Char) (body : Text) (mark : quote = '"' ∨ quote = '\'')
    (ends : escapes false body = false) : unquote (quote :: body ++ [quote]) = body := by
  rw [escapes_ends] at ends
  rw [List.cons_append, unquote, if_pos mark, if_pos ⟨List.getLast?_concat, by rwa [List.dropLast_concat]⟩,
    List.dropLast_concat]

theorem unquote_open (quote : Char) (text : Text) (mark : quote = '"' ∨ quote = '\'')
    (enclosed : Enclosed quote false text) : unquote (quote :: text) = text := by
  rw [unquote, if_pos mark, if_neg]
  rintro ⟨last, unescaped⟩
  obtain ⟨body, rfl⟩ := List.getLast?_eq_some_iff.mp last
  have escaped := enclosed body [] rfl
  rw [List.dropLast_concat] at unescaped
  rw [escapes_ends, unescaped] at escaped
  cases escaped

theorem string_token_cases (quote : Char) (start : Nat) (rest : Text) (mark : IsQuote quote) :
    (∃ body after, rest = body ++ quote :: after ∧ Enclosed quote false body ∧ escapes false body = false ∧
        (stringStretch quote false rest).closed = true ∧
        (stringToken quote start rest).text = quote :: body ++ [quote] ∧
        unquote (stringToken quote start rest).text = body) ∨
      (Enclosed quote false rest ∧ (stringStretch quote false rest).closed = false ∧
        (stringToken quote start rest).text = quote :: rest ∧ unquote (stringToken quote start rest).text = rest) := by
  rcases string_stretch_cases quote false rest with ⟨body, after, rfl, enclosed, ends, stretch⟩ | ⟨enclosed, stretch⟩
  · have text : (stringToken quote start (body ++ quote :: after)).text = quote :: body ++ [quote] := by
      rw [stringToken, stretch, List.take_length_add_append]
      rfl
    refine .inl ⟨body, after, rfl, enclosed, ends, by rw [stretch], text, ?_⟩
    rw [text]
    exact unquote_closed quote body mark ends
  · have text : (stringToken quote start rest).text = quote :: rest := by
      rw [stringToken, stretch, List.take_length]
    refine .inr ⟨enclosed, by rw [stretch], text, ?_⟩
    rw [text]
    exact unquote_open quote rest mark enclosed

-- While a string is open, it is the last thing that means something.
def OpenedBy (state : LexState) (placed : List (Nat × Token)) : Prop :=
  ∀ quote, state.mode = .inString quote → ∃ entry, lastMeaningful placed = some entry ∧ entry.2.kind = some .string

theorem next_token_opened (lexer : Lexer) (line : Text) (column row : Nat) (state after : LexState) (token : Token)
    (placed : List (Nat × Token)) (found : lexer.nextToken line column state = some (token, after))
    (opened : OpenedBy state placed) : OpenedBy after (placed ++ [(row, token)]) := by
  obtain ⟨c, rest, _, step⟩ := next_token_cases lexer line column state after token found
  intro quote inside
  rcases step with ⟨_, rfl, rfl⟩ | ⟨lexeme, _, scanned, rfl, rfl⟩
  · rw [entering_mode] at inside
    rw [last_meaningful_snoc]
    exact opened quote inside
  · rw [track_mode] at inside
    have string : lexeme.kind = some .string := by
      rw [scanned] at inside ⊢
      exact scan_in_string lexer.vocabulary state.mode c rest quote inside
    rw [last_meaningful_snoc, string]
    exact ⟨_, rfl, rfl⟩

theorem token_path_opened (lexer : Lexer) (line : Text) (column stop row : Nat) (state reached : LexState)
    (tokens : List Token) (placed : List (Nat × Token))
    (path : TokenPath lexer line column state tokens stop reached) (opened : OpenedBy state placed) :
    OpenedBy reached (placed ++ tokens.map (Prod.mk row)) := by
  induction path generalizing placed with
  | done column state =>
      rw [List.map_nil, List.append_nil]
      exact opened
  | step column stop state after reached token tokens found _ ih =>
      have next := ih _ (next_token_opened lexer line column row state after token placed found opened)
      rwa [List.append_assoc] at next

theorem fresh_line_opened (buffer : Buffer) (fresh : buffer.Fresh) (line : Nat) (state : LexState)
    (found : buffer.states[line]? = some state) : OpenedBy state (buffer.document.tokensBefore line 0) := by
  induction line generalizing state with
  | zero =>
      cases found
      intro quote inside
      cases inside
  | succ line ih =>
      rw [Buffer.states, List.getElem?_cons_succ, List.getElem?_map, Option.map_eq_some_iff] at found
      obtain ⟨row, present, rfl⟩ := found
      obtain ⟨before, state, lexed⟩ := lexed_row buffer.lexer .start buffer.rows line row fresh.lexed present
      obtain ⟨stop, path⟩ := lex_line_path buffer.lexer row.text before
      have tokens : buffer.document.lineTokens line = (buffer.lexer.lexLine row.text before).1 := by
        rw [document_line_tokens, present]
        exact congrArg BufferLine.tokens lexed
      have after : row.after = (buffer.lexer.lexLine row.text before).2.clearPending := congrArg BufferLine.after lexed
      have opened := token_path_opened buffer.lexer row.text 0 stop line _ _ _ _ path (ih before state)
      rw [tokens_before_row, tokens, after]
      exact opened

theorem fresh_state_settled (buffer : Buffer) (fresh : buffer.Fresh) (line : Nat) (state : LexState)
    (found : buffer.states[line]? = some state) : state.clearPending = state := by
  cases line with
  | zero =>
      cases found
      rfl
  | succ line =>
      rw [Buffer.states, List.getElem?_cons_succ, List.getElem?_map, Option.map_eq_some_iff] at found
      obtain ⟨row, present, rfl⟩ := found
      obtain ⟨before, _, lexed⟩ := lexed_row buffer.lexer .start buffer.rows line row fresh.lexed present
      rw [lexed]
      rfl

theorem field_at_iff (document : Document) (line column : Nat) (field : Field) :
    Field.at? document line column = some field ↔
      ∃ previous, document.tokenAt line column = some field.token ∧ field.token.kind = some .string ∧
        document.previousToken line field.token.start = some previous ∧ previous.kind = some .operator ∧
        FieldKind.ofOperator? previous.text = some field.kind ∧ field.line = line ∧ field.operator = previous.text := by
  constructor
  · intro found
    unfold Field.at? at found
    split at found
    · cases found
    · rename_i token here
      split at found
      · rename_i string
        split at found
        · cases found
        · rename_i previous before
          split at found
          · rename_i operator
            obtain ⟨kind, takes, rfl⟩ := Option.map_eq_some_iff.mp found
            exact ⟨previous, here, string, before, operator, takes, rfl, rfl⟩
          · cases found
      · cases found
  · rintro ⟨previous, here, string, before, operator, takes, rfl, names⟩
    rw [← names] at takes
    simp only [Field.at?, here, string, before, operator, if_true, ← names, takes, Option.map_some]

theorem string_at_covers (document : Document) (line column : Nat) (token : Token) (tiled : document.Tiled)
    (here : document.tokenAt line column = some token) (string : token.kind = some .string) :
    line < document.lineCount ∧
      ∃ earlier later place, Covers (document.lineTokens line) earlier token later place := by
  cases content : document.lineText? line with
  | none =>
      rw [Document.tokenAt, content] at here
      cases here
  | some text =>
      rcases token_at_cases document line column text tiled content with
        ⟨_, under⟩ | ⟨earlier, found, later, covers, under⟩
      · cases here.symm.trans under
        cases string
      · cases here.symm.trans under
        exact ⟨line_text_inside document line text content, earlier, later, _, covers⟩

structure Token.Opens (token : Token) (line : Text) (quote : Char) (rest : Text) (after : LexState) : Prop where
  mark : IsQuote quote
  content : line.drop token.start = quote :: rest
  token : token = stringToken quote token.start rest
  mode : after.mode = (stringStretch quote false rest).modeAfter (.inString quote)

theorem string_token_opens (lexer : Lexer) (line : Text) (column : Nat) (state after : LexState) (token : Token)
    (found : lexer.nextToken line column state = some (token, after)) (string : token.kind = some .string)
    (outside : ∀ quote, state.mode ≠ .inString quote) :
    state.mode = .plain ∧ ∃ quote rest, token.Opens line quote rest after := by
  obtain ⟨c, rest, shape, step⟩ := next_token_cases lexer line column state after token found
  rcases step with ⟨_, _, rfl⟩ | ⟨lexeme, _, scanned, rfl, rfl⟩
  · cases string
  · cases mode : state.mode with
    | inString quote => exact absurd mode (outside quote)
    | inComment =>
        rw [scanned, mode] at string
        cases string
    | plain =>
        rw [mode] at scanned
        rw [scanned] at string
        obtain ⟨quote, whole⟩ := scan_plain_string lexer.vocabulary c rest string
        rw [scan, whole] at scanned
        subst lexeme
        refine ⟨rfl, c, rest, quote, shape, rfl, ?_⟩
        rw [track_mode]

-- How the lexer comes to the token of a field: over the tokens before it on the line, and then outside strings to
-- its opening quote.
structure Field.Reached (field : Field) (buffer : Buffer) (content : Text) (before reached after : LexState)
    (earlier later : List Token) (quote : Char) (rest : Text) : Prop where
  line : buffer.lines[field.line]? = some content
  state : buffer.states[field.line]? = some before
  tokens : buffer.tokens[field.line]? = some (earlier ++ field.token :: later)
  path : TokenPath buffer.lexer content 0 before earlier field.token.start reached
  next : buffer.lexer.nextToken content field.token.start reached = some (field.token, after)
  plain : reached.mode = .plain
  opens : field.token.Opens content quote rest after

theorem field_reached (buffer : Buffer) (fresh : buffer.Fresh) (line column : Nat) (field : Field)
    (found : Field.at? buffer.document line column = some field) :
    ∃ content before reached after earlier later quote rest,
      field.Reached buffer content before reached after earlier later quote rest := by
  have tiled := fresh_document_tiled buffer fresh
  obtain ⟨previous, here, string, nearest, operator, _, rfl, _⟩ :=
    (field_at_iff buffer.document line column field).mp found
  obtain ⟨inside, earlier, later, place, covers⟩ :=
    string_at_covers buffer.document field.line column field.token tiled here string
  rw [previous_token_nearest buffer.document field.line _ tiled inside,
    tokens_before_parts buffer.document field.line place earlier later field.token covers] at nearest
  rw [document_line_count] at inside
  have present := List.getElem?_eq_getElem inside
  generalize buffer.rows[field.line] = row at present
  obtain ⟨before, state, lexed⟩ := lexed_row buffer.lexer .start buffer.rows field.line row fresh.lexed present
  have settled := fresh_state_settled buffer fresh field.line before state
  have tokens : buffer.document.lineTokens field.line = (buffer.lexer.lexFrom row.text 0 before).1 := by
    rw [document_line_tokens, present, ← settled]
    exact congrArg BufferLine.tokens lexed
  obtain ⟨reached, after, path, next⟩ := lex_from_split buffer.lexer row.text 0 before earlier later field.token
    (tokens.symm.trans covers.parts)
  have opened := token_path_opened buffer.lexer row.text 0 _ field.line before reached earlier _ path
    (fresh_line_opened buffer fresh field.line before state)
  -- Inside a string the nearest token would be a string and no operator.
  have outside : ∀ quote, reached.mode ≠ .inString quote := by
    intro quote still
    obtain ⟨entry, last, kind⟩ := opened quote still
    rw [last] at nearest
    cases nearest
    rw [kind] at operator
    cases operator
  obtain ⟨plain, quote, rest, opens⟩ :=
    string_token_opens buffer.lexer row.text _ reached after field.token next string outside
  refine ⟨row.text, before, reached, after, earlier, later, quote, rest, ?_, state, ?_, path, next, plain, opens⟩
  · rw [Buffer.lines, List.getElem?_map, present]
    rfl
  · rw [← covers.parts, document_line_tokens, Buffer.tokens, List.getElem?_map, present]
    rfl

theorem opened_token_delimited (token : Token) (line : Text) (quote : Char) (rest : Text) (after : LexState)
    (opens : token.Opens line quote rest after) :
    (after.mode = .plain ∧ token.text = [quote] ++ unquote token.text ++ [quote]) ∨
      (after.mode = .inString quote ∧ token.text = [quote] ++ unquote token.text) := by
  have mode := opens.mode
  rw [opens.token]
  rcases string_token_cases quote token.start rest opens.mark with
    ⟨body, _, _, _, _, closed, text, read⟩ | ⟨_, unclosed, text, read⟩
  · left
    rw [Stretch.modeAfter, if_pos closed] at mode
    rw [read]
    exact ⟨mode, text⟩
  · right
    rw [Stretch.modeAfter, unclosed, if_neg Bool.false_ne_true] at mode
    rw [read]
    exact ⟨mode, text⟩

theorem field_value_between_delimiters (lexer : Lexer) (text : Text) (edits : List Edit) (line column : Nat) (field : Field)
    (found : Field.at? ((Buffer.ofText lexer text).editAll edits).document line column = some field) :
    let buffer := (Buffer.ofText lexer text).editAll edits
    field.line = line ∧
      ∃ content before reached after earlier later quote,
        buffer.lines[line]? = some content ∧ buffer.states[line]? = some before ∧
        buffer.tokens[line]? = some (earlier ++ field.token :: later) ∧
        TokenPath lexer content 0 before earlier field.token.start reached ∧
        lexer.nextToken content field.token.start reached = some (field.token, after) ∧
        reached.mode = .plain ∧ (quote = '"' ∨ quote = '\'') ∧
        ((after.mode = .plain ∧ field.token.text = [quote] ++ field.value ++ [quote]) ∨
          (after.mode = .inString quote ∧ field.token.text = [quote] ++ field.value)) := by
  intro buffer
  have fresh : buffer.Fresh := edit_all_fresh _ edits (of_text_fresh lexer text)
  have sameLexer : buffer.lexer = lexer := edit_all_lexer (Buffer.ofText lexer text) edits
  obtain ⟨_, _, _, _, _, _, rfl, _⟩ := (field_at_iff buffer.document line column field).mp found
  obtain ⟨content, before, reached, after, earlier, later, quote, rest, way⟩ :=
    field_reached buffer fresh field.line column field found
  have path := way.path
  have next := way.next
  rw [sameLexer] at path next
  exact ⟨rfl, content, before, reached, after, earlier, later, quote, way.line, way.state, way.tokens, path, next,
    way.plain, way.opens.mark, opened_token_delimited field.token content quote rest after way.opens⟩

theorem field_value_between_delimiters_below_operator :
    let lexer : Lexer := { vocabulary := Vocabulary.ofLists { operators := ["in".toList] } }
    let edits : List Edit := [.setLine 1 "'a\\'\\\\' 'b".toList]
    let buffer := (Buffer.ofText lexer "in".toList).editAll edits
    let field : Field := ⟨.list, 1, ⟨some .string, "'a\\'\\\\'".toList, 0, 7⟩, "in".toList⟩
    Field.at? buffer.document 1 2 = some field ∧ field.value = "a\\'\\\\".toList ∧
      ∃ content reached after, buffer.lines[1]? = some content ∧
        lexer.nextToken content 0 reached = some (field.token, after) ∧ reached.mode = .plain ∧ after.mode = .plain := by
  intro lexer edits buffer field
  have found : Field.at? buffer.document 1 2 = some field := by unfold buffer edits lexer field; cbv
  obtain ⟨_, content, _, reached, after, _, _, _, here, _, _, _, next, plain, _, closed | unclosed⟩ :=
    field_value_between_delimiters lexer "in".toList edits 1 2 field found
  · exact ⟨found, by decide, content, reached, after, here, next, plain, closed.1⟩
  · have length := congrArg List.length unclosed.2
    rw [List.length_append, List.length_singleton] at length
    exact absurd length (by decide)

end FilterAssist
