import FilterAssist.Proofs.Field.Delimiters

set_option autoImplicit false

/-!
Writing a field. Whatever value is put between the quotes, the field is found again where it was; the
value is read back as written exactly when none of its characters ends the string early and its last
one does not escape the closing quote.
-/
namespace FilterAssist

def Buffer.applyEdit (buffer : Buffer) (edit : TextEdit) : Buffer :=
  match buffer.lines[edit.line]? with
  | none => buffer
  | some content =>
    (buffer.setLine edit.line (content.take edit.start ++ edit.newText ++ content.drop edit.stop)).1

theorem split_line_lookup (buffer : Buffer) (fresh : buffer.Fresh) (line : Nat) (earlier later : List Token)
    (token : Token) (tokens : buffer.tokens[line]? = some (earlier ++ token :: later)) :
    buffer.document.tokenAt line (token.start + 1) = some token ∧
      buffer.document.previousToken line token.start =
        (lastMeaningful (buffer.document.tokensBefore line 0 ++ earlier.map (Prod.mk line))).map Prod.snd := by
  have tiled := fresh_document_tiled buffer fresh
  have parts := line_tokens_of_buffer buffer line _ tokens
  have inside : line < buffer.document.lineCount := by
    rw [document_line_count, ← List.length_map BufferLine.tokens]
    exact (List.getElem?_eq_some_iff.mp tokens).1
  have member : token ∈ buffer.document.lineTokens line := by
    rw [parts]
    exact List.mem_append_right earlier List.mem_cons_self
  obtain ⟨covers, found⟩ := parted_token_at buffer.document line (token.start + 1) earlier later token tiled parts
    (Nat.lt_succ_self _) (tiled_tokens_within buffer.document line tiled token member).1
  refine ⟨found, ?_⟩
  rw [previous_token_nearest buffer.document line _ tiled inside,
    tokens_before_parts buffer.document line _ earlier later token covers]

theorem requoted_line_tokens (lexer : Lexer) (front tail rest : Text) (quote mark : Char) (before reached : LexState)
    (earlier : List Token) (quoted : IsQuote quote) (marked : IsQuote mark)
    (path : TokenPath lexer (front ++ quote :: tail) 0 before earlier front.length reached)
    (plain : reached.mode = .plain) :
    ∃ later, (lexer.lexFrom (front ++ mark :: rest) 0 before).1 =
      earlier ++ stringToken mark front.length rest :: later := by
  have same := token_path_local lexer front tail rest quote mark 0 front.length before reached earlier quoted marked path
    (Nat.le_refl _)
  obtain ⟨after, next⟩ := next_token_quote lexer front rest mark reached marked plain
  rw [token_path_lex lexer _ 0 front.length before reached earlier same, lex_from_step lexer _ _ reached after _ next]
  exact ⟨_, rfl⟩

theorem quoted_value_read_back (quote : Char) (start : Nat) (value tail : Text) (mark : IsQuote quote) :
    unquote (stringToken quote start (value ++ quote :: tail)).text = value ↔
      Enclosed quote false value ∧ escapes false value = false := by
  rcases string_token_cases quote start (value ++ quote :: tail) mark with
    ⟨body, after, parts, enclosed, ends, _, _, read⟩ | ⟨enclosed, _, _, read⟩
  · rw [read]
    constructor
    · rintro rfl
      exact ⟨enclosed, ends⟩
    · rintro ⟨whole, unescaped⟩
      exact closing_quote_unique quote false body value after tail parts.symm enclosed ends whole unescaped
  · rw [read]
    constructor
    · intro same
      exact absurd (List.append_right_eq_self.mp same) (List.cons_ne_nil quote tail)
    · rintro ⟨_, unescaped⟩
      rw [enclosed value tail rfl] at unescaped
      cases unescaped

theorem set_line_tokens_before (buffer : Buffer) (line : Nat) (text : Text) (inside : line < buffer.rows.length) :
    (buffer.setLine line text).1.document.tokensBefore line 0 = buffer.document.tokensBefore line 0 := by
  refine tokens_before_same_above _ _ line (fun above higher => ?_)
  rw [document_line_tokens, document_line_tokens, (set_line_above buffer line text inside).2.2 above higher]

theorem apply_replacement (buffer : Buffer) (field : Field) (value front rest : Text) (quote : Char)
    (line : buffer.lines[field.line]? = some (front ++ quote :: rest)) (width : front.length = field.token.start) :
    buffer.applyEdit (field.replacement value) = (buffer.setLine field.line
      (front ++ '"' :: (value ++ '"' :: (front ++ quote :: rest).drop field.token.stop))).1 := by
  have kept : (front ++ quote :: rest).take field.token.start = front := by
    rw [← width]
    exact List.take_left
  simp only [Buffer.applyEdit, Field.replacement, line, kept, List.append_assoc, List.cons_append, List.nil_append]

theorem replaced_line_tokens (buffer : Buffer) (fresh : buffer.Fresh) (field : Field) (front rest more : Text)
    (before reached after : LexState) (earlier later : List Token) (quote : Char)
    (way : field.Reached buffer (front ++ quote :: rest) before reached after earlier later quote rest)
    (width : front.length = field.token.start) (inside : field.line < buffer.rows.length) :
    ∃ further, (buffer.setLine field.line (front ++ '"' :: more)).1.tokens[field.line]? =
      some (earlier ++ stringToken '"' field.token.start more :: further) := by
  obtain ⟨content, start, _⟩ := set_line_above buffer field.line (front ++ '"' :: more) inside
  have path := way.path
  rw [← width] at path ⊢
  obtain ⟨further, lexed⟩ := requoted_line_tokens buffer.lexer front rest more quote '"' before reached earlier
    way.opens.mark (.inl rfl) path way.plain
  obtain ⟨state, same, tokens, _⟩ := fresh_line _
    (replace_lines_fresh buffer ⟨field.line, field.line + 1⟩ [front ++ '"' :: more] fresh) field.line _ content
  have unchanged : before = state := Option.some.inj (way.state.symm.trans (start.symm.trans same))
  refine ⟨further, tokens.trans ?_⟩
  rw [← lexed, ← unchanged, replace_lines_lexer, Lexer.lexLine,
    fresh_state_settled buffer fresh field.line before way.state]

theorem replaced_field_found (buffer : Buffer) (fresh : buffer.Fresh) (line column : Nat) (field : Field) (value : Text)
    (found : Field.at? buffer.document line column = some field) :
    ∃ tail, Field.at? (buffer.applyEdit (field.replacement value)).document line (field.token.start + 1) =
      some ⟨field.kind, field.line, stringToken '"' field.token.start (value ++ '"' :: tail), field.operator⟩ := by
  obtain ⟨previous, _, _, nearest, operator, takes, rfl, names⟩ :=
    (field_at_iff buffer.document line column field).mp found
  obtain ⟨content, before, reached, after, earlier, later, quote, rest, way⟩ :=
    field_reached buffer fresh field.line column field found
  have inside : field.line < buffer.rows.length := by
    rw [← List.length_map BufferLine.text]
    exact (List.getElem?_eq_some_iff.mp way.line).1
  obtain ⟨front, rfl, width⟩ : ∃ front, content = front ++ quote :: rest ∧ front.length = field.token.start := by
    have shorter := congrArg List.length way.opens.content
    rw [List.length_drop, List.length_cons] at shorter
    refine ⟨content.take field.token.start, ?_, List.length_take_of_le (by omega)⟩
    rw [← way.opens.content, List.take_append_drop]
  refine ⟨(front ++ quote :: rest).drop field.token.stop, ?_⟩
  rw [apply_replacement buffer field value front rest quote way.line width]
  generalize value ++ '"' :: (front ++ quote :: rest).drop field.token.stop = more
  obtain ⟨further, tokens⟩ := replaced_line_tokens buffer fresh field front rest more before reached after earlier later
    quote way width inside
  obtain ⟨here, left⟩ := split_line_lookup _
    (replace_lines_fresh buffer ⟨field.line, field.line + 1⟩ [front ++ '"' :: more] fresh) field.line earlier further _
    tokens
  rw [(split_line_lookup buffer fresh field.line earlier later field.token way.tokens).2,
    ← set_line_tokens_before buffer field.line (front ++ '"' :: more) inside] at nearest
  exact (field_at_iff _ _ _ _).mpr ⟨previous, here, rfl, left.trans nearest, operator, takes, rfl, names⟩

theorem replacement_read_back_iff (lexer : Lexer) (text : Text) (edits : List Edit) (line column : Nat) (field : Field)
    (value : Text)
    (found : Field.at? ((Buffer.ofText lexer text).editAll edits).document line column = some field) :
    let buffer := (Buffer.ofText lexer text).editAll edits
    let edited := buffer.applyEdit (field.replacement value)
    ∃ again, Field.at? edited.document line (field.token.start + 1) = some again ∧
      again.kind = field.kind ∧ again.operator = field.operator ∧ again.line = field.line ∧
      again.token.start = field.token.start ∧
      (again.value = value ↔
        (∀ before after, value = before ++ '"' :: after → escapes false before = true) ∧ endsEscaped value = false) := by
  intro buffer edited
  have fresh : buffer.Fresh := edit_all_fresh _ edits (of_text_fresh lexer text)
  obtain ⟨tail, again⟩ := replaced_field_found buffer fresh line column field value found
  refine ⟨_, again, rfl, rfl, rfl, rfl, ?_⟩
  rw [← escapes_ends]
  exact quoted_value_read_back '"' field.token.start value tail (.inl rfl)

theorem replacement_read_back_iff_below_operator :
    let lexer : Lexer := { vocabulary := Vocabulary.ofLists { operators := ["in".toList] } }
    let edits : List Edit := [.setLine 1 " 'a".toList]
    let buffer := (Buffer.ofText lexer "in".toList).editAll edits
    let field : Field := ⟨.list, 1, ⟨some .string, "'a".toList, 1, 3⟩, "in".toList⟩
    Field.at? buffer.document 1 3 = some field ∧
      (∃ again, Field.at? (buffer.applyEdit (field.replacement "b\\\"\\\\".toList)).document 1 2 = some again ∧
        again.value = "b\\\"\\\\".toList) ∧
      ∃ again, Field.at? (buffer.applyEdit (field.replacement "b\\".toList)).document 1 2 = some again ∧
        again.operator = "in".toList ∧ again.value ≠ "b\\".toList := by
  intro lexer edits buffer field
  have found : Field.at? buffer.document 1 3 = some field := by unfold buffer edits lexer field; cbv
  obtain ⟨again, here, _, _, _, _, reads⟩ :=
    replacement_read_back_iff lexer "in".toList edits 1 3 field "b\\\"\\\\".toList found
  obtain ⟨other, there, _, operator, _, _, misreads⟩ :=
    replacement_read_back_iff lexer "in".toList edits 1 3 field "b\\".toList found
  have enclosed : Enclosed '"' false "b\\\"\\\\".toList := by
    change Enclosed '"' false ['b', '\\', '"', '\\', '\\']
    simp [enclosed_cons, enclosed_nil]
  refine ⟨found, ⟨again, here, reads.mpr ⟨enclosed, by decide⟩⟩, other, there, operator, fun same => ?_⟩
  exact absurd (misreads.mp same).2 (by decide)

end FilterAssist
