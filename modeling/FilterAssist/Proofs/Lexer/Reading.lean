import FilterAssist.Proofs.Lexer.Lexemes

set_option autoImplicit false

/-!
The loops that read a token off a line take what the recursions on its characters say, so the two
forms of the lexer agree.
-/
namespace FilterAssist

namespace Cursor

theorem move_move (cursor : Cursor) (one two : Nat) : (cursor.move one).move two = cursor.move (one + two) := by
  simp only [move, Nat.add_assoc]

theorem skip_to_end_move (cursor : Cursor) (inside : cursor.pos ≤ cursor.line.length) :
    cursor.skipToEnd = cursor.move cursor.rest.length := by
  simp only [skipToEnd, move, rest, List.length_drop, Nat.add_sub_cancel' inside]

theorem current_move (cursor : Cursor) (count : Nat) (marked : cursor.start = cursor.pos) :
    (cursor.move count).current = cursor.rest.take count := by
  simp only [current, move, rest, marked, Nat.add_sub_cancel_left]

theorem token_move (cursor : Cursor) (kind : Option TokenKind) (count : Nat) (marked : cursor.start = cursor.pos) :
    (cursor.move count).token kind = ⟨kind, cursor.rest.take count, cursor.pos, cursor.pos + count⟩ := by
  rw [token, cursor.current_move count marked]
  simp only [move, marked]

theorem rest_inside (cursor : Cursor) (c : Char) (rest : Text) (shape : cursor.rest = c :: rest) :
    cursor.pos < cursor.line.length := by
  have left := congrArg List.length shape
  simp only [Cursor.rest, List.length_drop, List.length_cons] at left
  omega

end Cursor

theorem read_string_eq (quote : Char) (escaped : Bool) (cursor : Cursor) (state : LexState) :
    readString quote escaped cursor state =
      (cursor.move (stringStretch quote escaped cursor.rest).length,
        { state with mode := (stringStretch quote escaped cursor.rest).modeAfter state.mode }) := by
  fun_induction readString quote escaped cursor state with
  | case1 escaped cursor _ missing =>
      rw [cursor.next_missing _ missing]
      rfl
  | case2 escaped cursor c after taken closed =>
      obtain ⟨shape, moved⟩ := cursor.next_taken _ _ taken
      rw [shape, stringStretch, if_pos closed, moved]
      rfl
  | case3 escaped cursor c after taken further ih =>
      obtain ⟨shape, moved⟩ := cursor.next_taken _ _ taken
      rw [ih, shape, stringStretch, if_neg further, moved, Cursor.move_move, Nat.add_comm 1]
      rfl

theorem comment_stretch_missing (text : Text) (missing : '*' ∉ text) : commentStretch text = ⟨text.length, false⟩ := by
  induction text with
  | nil => rfl
  | cons c rest ih =>
      rw [List.mem_cons, not_or] at missing
      rw [commentStretch, if_neg fun closes => missing.1 closes.1.symm, ih missing.2]
      rfl

theorem comment_stretch_star (front back : Text) (missing : '*' ∉ front) :
    commentStretch (front ++ '*' :: back) =
      if back.head? = some '/' then ⟨front.length + 2, true⟩
      else ⟨front.length + 1 + (commentStretch back).length, (commentStretch back).closed⟩ := by
  induction front with
  | nil =>
      by_cases ended : back.head? = some '/'
      · simp [commentStretch, ended]
      · simp [commentStretch, ended, Stretch.extend, Nat.add_comm]
  | cons c front ih =>
      rw [List.mem_cons, not_or] at missing
      rw [List.cons_append, commentStretch, if_neg fun closes => missing.1 closes.1.symm, ih missing.2]
      split
      · rfl
      · simp only [Stretch.extend, List.length_cons, Stretch.mk.injEq, and_true]
        omega

theorem read_comment_eq (cursor : Cursor) (state : LexState) (inside : cursor.pos ≤ cursor.line.length) :
    readComment cursor state =
      (cursor.move (commentStretch cursor.rest).length,
        { state with mode := (commentStretch cursor.rest).modeAfter state.mode }) := by
  fun_induction readComment cursor state with
  | case1 cursor _ missing =>
      rw [comment_stretch_missing _ (cursor.skip_to_missing _ _ missing), cursor.skip_to_end_move inside]
      rfl
  | case2 cursor star found after ended =>
      obtain ⟨front, missing, parts, moved⟩ := cursor.skip_to_past _ _ found
      obtain ⟨slash, past⟩ := Cursor.eat_taken _ _ _ ended
      rw [Cursor.peek] at slash
      rw [parts, comment_stretch_star _ _ missing, if_pos slash, past, moved, Cursor.move_move]
      rfl
  | case3 cursor star found after missed ih =>
      obtain ⟨front, missing, parts, moved⟩ := cursor.skip_to_past _ _ found
      obtain ⟨unended, kept⟩ := Cursor.eat_missed _ _ _ missed
      have fits : after.pos ≤ after.line.length := by
        have length := congrArg List.length parts
        simp only [Cursor.rest, List.length_drop, List.length_append, List.length_cons] at length
        rw [kept, moved]
        simp only [Cursor.move]
        omega
      rw [Cursor.peek] at unended
      rw [ih fits, kept, parts, comment_stretch_star _ _ missing, if_neg unended, moved, Cursor.move_move]
      rfl

theorem find_anchored (pattern : Pattern) (text : Text) (anchored : pattern.anchored = true) :
    pattern.find text = (pattern.part.lengths text).head?.map fun length => (0, length) := by
  unfold Pattern.find Pattern.findFrom
  split
  · rename_i found
    rw [found]
    rfl
  · rename_i missing
    rw [missing]
    rfl
  · rename_i missing
    rw [if_pos anchored, missing]
    rfl

theorem eat_match_anchored (cursor : Cursor) (pattern : Pattern) (length : Nat) (anchored : pattern.anchored = true)
    (preferred : (pattern.part.lengths cursor.rest).head?.getD 0 = length) :
    cursor.eatMatch pattern = (decide (0 < length), cursor.move length) := by
  rw [Cursor.eatMatch, find_anchored pattern cursor.rest anchored]
  cases found : (pattern.part.lengths cursor.rest).head? with
  | none =>
      rw [found] at preferred
      rw [← preferred]
      rfl
  | some first =>
      rw [found] at preferred
      subst preferred
      cases first <;> rfl

theorem run_lengths (least : Nat) (test : Char → Bool) (text : Text) (enough : least ≤ (text.takeWhile test).length) :
    ∃ shorter, (PatternPart.run least test).lengths text = (text.takeWhile test).length :: shorter := by
  obtain ⟨more, total⟩ := Nat.exists_eq_add_of_le enough
  refine ⟨(List.range' least more).reverse, ?_⟩
  rw [PatternPart.lengths, total, Nat.add_assoc, Nat.add_sub_cancel_left, List.range'_1_concat, List.reverse_concat]

theorem run_lengths_none (least : Nat) (test : Char → Bool) (text : Text) (few : (text.takeWhile test).length < least) :
    (PatternPart.run least test).lengths text = [] := by
  rw [PatternPart.lengths, Nat.sub_eq_zero_of_le few]
  rfl

theorem run_lengths_head (test : Char → Bool) (text : Text) :
    ((PatternPart.run 1 test).lengths text).head? =
      if (text.takeWhile test).length = 0 then none else some (text.takeWhile test).length := by
  split
  · rename_i missing
    rw [run_lengths_none 1 test text (by omega)]
    rfl
  · rename_i some
    obtain ⟨shorter, lengths⟩ := run_lengths 1 test text (by omega)
    rw [lengths]
    rfl

theorem sequence_lengths (first second : PatternPart) (text : Text) :
    (PatternPart.sequence first second).lengths text =
      (first.lengths text).flatMap fun length => (second.lengths (text.drop length)).map (length + ·) := rfl

theorem optional_lengths (part : PatternPart) (text : Text) :
    (PatternPart.optional part).lengths text = part.lengths text ++ [0] := rfl

theorem one_lengths (test : Char → Bool) (text : Text) :
    (PatternPart.one test).lengths text = if text.head?.any test then [1] else [] := rfl

theorem run_optional_head (least : Nat) (test : Char → Bool) (part : PatternPart) (text : Text)
    (enough : least ≤ (text.takeWhile test).length) :
    ((PatternPart.sequence (.run least test) (.optional part)).lengths text).head? =
      some ((text.takeWhile test).length + (part.lengths (text.drop (text.takeWhile test).length)).head?.getD 0) := by
  -- An optional part never fails, so the longest run before it stays the preferred one.
  obtain ⟨shorter, lengths⟩ := run_lengths least test text enough
  rw [sequence_lengths, lengths, List.flatMap_cons, optional_lengths]
  cases part.lengths (text.drop (text.takeWhile test).length) <;> rfl

theorem digits_missing (text : Text) (other : text.head?.any isDigit = false) : text.takeWhile isDigit = [] := by
  cases text with
  | nil => rfl
  | cons c rest => exact List.takeWhile_cons_of_neg (Bool.not_eq_true _ ▸ other)

theorem optional_one_lengths (test : Char → Bool) (part : PatternPart) (text : Text) (skipped : Nat)
    (skip : skipped = if text.head?.any test then 1 else 0)
    (apart : text.head?.any test = true → part.lengths text = []) :
    (PatternPart.sequence (.optional (.one test)) part).lengths text =
      (part.lengths (text.drop skipped)).map (skipped + ·) := by
  rw [sequence_lengths, optional_lengths, one_lengths, skip]
  by_cases taken : text.head?.any test = true
  · rw [if_pos taken, if_pos taken, List.flatMap_append, List.flatMap_singleton, List.flatMap_singleton, List.drop_zero,
      apart taken, List.map_nil, List.append_nil]
  · rw [if_neg taken, if_neg taken, List.nil_append, List.flatMap_singleton]

theorem sign_length_eq (text : Text) : signLength text = if text.head?.any isSign then 1 else 0 := by
  cases text with
  | nil => rfl
  | cons c rest => simp [signLength, isSign, or_comm]

theorem sign_no_digit (text : Text) (signed : text.head?.any isSign = true) : text.head?.any isDigit = false := by
  cases text with
  | nil => rfl
  | cons c rest =>
      simp only [List.head?_cons, Option.any_some, isSign, Bool.or_eq_true, beq_iff_eq] at signed ⊢
      rcases signed with rfl | rfl <;> decide

theorem exponent_lengths (text : Text) : (exponentPart.lengths text).head?.getD 0 = exponentLength text := by
  cases text with
  | nil => rfl
  | cons mark rest =>
      rw [exponentPart, sequence_lengths, one_lengths]
      by_cases marked : mark = 'e' ∨ mark = 'E'
      · have test : (mark :: rest).head?.any isExponentMark = true := by
          simpa [isExponentMark] using marked
        have apart : rest.head?.any isSign = true → (PatternPart.run 1 isDigit).lengths rest = [] := by
          intro signed
          have missing := digits_missing rest (sign_no_digit rest signed)
          exact run_lengths_none 1 isDigit rest (by rw [missing]; exact Nat.one_pos)
        simp only [exponentLength, if_pos marked]
        rw [if_pos test, List.flatMap_singleton, List.drop_one, List.tail_cons,
          optional_one_lengths isSign _ rest _ (sign_length_eq rest) apart, List.head?_map, List.head?_map,
          run_lengths_head]
        split
        · rfl
        · exact (Nat.add_assoc ..).symm
      · have test : ¬ (mark :: rest).head?.any isExponentMark = true := by
          simpa [isExponentMark] using marked
        rw [if_neg test, exponentLength, if_neg marked]
        rfl

theorem decimal_lengths_head (text : Text) :
    (decimalPart.lengths text).head? =
      if (text.takeWhile isDigit).length = 0 then none
      else some ((text.takeWhile isDigit).length + exponentLength (text.drop (text.takeWhile isDigit).length)) := by
  split
  · rename_i missing
    rw [decimalPart, sequence_lengths, run_lengths_none 1 isDigit text (by omega)]
    rfl
  · rename_i some
    rw [decimalPart, run_optional_head 1 isDigit exponentPart text (by omega), exponent_lengths]

theorem number_lengths (text : Text) (unworded : text.head?.any isWordChar = false) :
    (numberTail.part.lengths text).head?.getD 0 = fractionLength text := by
  have other : text.head?.any isDigit = false := by
    cases text with
    | nil => rfl
    | cons c rest => exact (Bool.or_eq_false_iff.mp (Bool.or_eq_false_iff.mp unworded).1).2
  have missing := digits_missing text other
  have none : (PatternPart.run 0 isDigit).lengths text = [0] := by
    rw [PatternPart.lengths, missing]
    rfl
  have unstarted : decimalPart.lengths text = [] := by
    rw [← List.head?_eq_none_iff, decimal_lengths_head, missing]
    rfl
  rw [numberTail, sequence_lengths, none, List.flatMap_singleton, List.drop_zero,
    optional_one_lengths _ _ text _ rfl fun _ => unstarted, List.head?_map, List.head?_map, decimal_lengths_head]
  cases text with
  | nil => rfl
  | cons point rest =>
      by_cases pointed : point = '.'
      · subst pointed
        simp only [List.head?_cons, Option.any_some, beq_self_eq_true, if_true, List.drop_one, List.tail_cons, fractionLength,
          true_and, Nat.pos_iff_ne_zero]
        by_cases digitless : (rest.takeWhile isDigit).length = 0
        · simp [digitless]
        · simp [digitless, Nat.add_assoc]
      · simp [missing, fractionLength, pointed]

theorem eat_match_number (cursor : Cursor) (unworded : cursor.rest.head?.any isWordChar = false) :
    (cursor.eatMatch numberTail).2 = cursor.move (fractionLength cursor.rest) := by
  rw [eat_match_anchored cursor numberTail _ rfl (number_lengths cursor.rest unworded)]

theorem eat_match_point (cursor : Cursor) :
    cursor.eatMatch pointTail =
      (cursor.rest.head?.any isPointDigit, cursor.move (cursor.rest.takeWhile isPointDigit).length) := by
  have some : cursor.rest.head?.any isPointDigit = decide (0 < (cursor.rest.takeWhile isPointDigit).length) := by
    cases cursor.rest with
    | nil => rfl
    | cons c rest => by_cases digit : isPointDigit c = true <;> simp [digit]
  have lengths : (pointTail.part.lengths cursor.rest).head?.getD 0 = (cursor.rest.takeWhile isPointDigit).length := by
    rw [pointTail, run_lengths_head]
    split
    · rename_i empty
      rw [Option.getD_none, empty]
    · rfl
  rw [eat_match_anchored cursor pointTail _ rfl lengths, some]

theorem read_word_eq (vocabulary : Vocabulary) (cursor : Cursor) (state : LexState) (c : Char) (rest : Text)
    (shape : cursor.rest = c :: rest) (marked : cursor.start = cursor.pos) :
    readWord vocabulary (cursor.move 1) state =
      ⟨(scanWord vocabulary c rest).kind, cursor.move (scanWord vocabulary c rest).length, state⟩ := by
  have taken (test : Char → Bool) (front back : Text) (parts : rest = front ++ back) (inside : ∀ d ∈ front, test d = true) :
      ((cursor.move (front.length + 1)).eatWhile test).2 = cursor.move ((rest.takeWhile test).length + 1) := by
    rw [Cursor.eatWhile, Cursor.move_move, Cursor.rest_move, shape, List.drop_succ_cons, parts, List.drop_left,
      List.takeWhile_append_of_pos inside, List.length_append, Nat.add_right_comm]
  have current (test : Char → Bool) :
      (cursor.move ((rest.takeWhile test).length + 1)).current = c :: rest.takeWhile test := by
    rw [cursor.current_move _ marked, shape, List.take_succ_cons, ← List.prefix_iff_eq_take.mp (List.takeWhile_prefix test)]
  have word := taken (fun c => !isBlank c && !isBracket c) [] rest rfl (fun _ member => absurd member List.not_mem_nil)
  have whole := taken (fun c => !isBlank c) _ _ (List.takeWhile_append_dropWhile (p := fun c => !isBlank c && !isBracket c)).symm
    fun d member => (Bool.and_eq_true_iff.mp (List.all_eq_true.mp List.all_takeWhile d member)).1
  rw [List.length_nil, Nat.zero_add] at word
  simp only [readWord, scanWord, word, whole, current]
  cases kindBeforePunctuation vocabulary (lowerCase (c :: rest.takeWhile fun c => !isBlank c && !isBracket c)) with
  | some kind => rfl
  | none =>
      by_cases keep : lowerCase (c :: rest.takeWhile fun c => !isBlank c && !isBracket c) = punctuationStart
      · simp only [if_pos keep, List.length_cons]
      · simp only [if_neg keep, List.length_cons]

theorem rest_after_first (cursor : Cursor) (c : Char) (rest : Text) (shape : cursor.rest = c :: rest) :
    (cursor.move 1).rest = rest := by
  rw [cursor.rest_move, shape, List.drop_one, List.tail_cons]

theorem eat_after_first (cursor : Cursor) (c d : Char) (rest : Text) (shape : cursor.rest = c :: rest) :
    (cursor.move 1).eat d = if rest.head? = some d then (true, cursor.move 2) else (false, cursor.move 1) := by
  rw [Cursor.eat, Cursor.peek, rest_after_first cursor c rest shape, Cursor.move_move]

theorem read_block_comment (cursor : Cursor) (state : LexState) (c : Char) (rest : Text)
    (shape : cursor.rest = c :: rest) (star : rest.head? = some '*') :
    readComment (cursor.move 2) state =
      (cursor.move ((commentStretch (rest.drop 1)).length + 2),
        { state with mode := (commentStretch (rest.drop 1)).modeAfter state.mode }) := by
  have later := rest_after_first cursor c rest shape
  have body : (cursor.move 2).rest = rest.drop 1 := by
    rw [← cursor.move_move 1 1, Cursor.rest_move, later]
  have opened : (cursor.move 2).pos ≤ (cursor.move 2).line.length :=
    (cursor.move 1).rest_inside '*' _ ((cursor.move 1).peek_rest '*' (by rw [Cursor.peek, later, star]))
  rw [read_comment_eq _ _ opened, body, Cursor.move_move, Nat.add_comm 2]

theorem read_plain_eq (vocabulary : Vocabulary) (cursor : Cursor) (state : LexState) (c : Char) (rest : Text)
    (shape : cursor.rest = c :: rest) (marked : cursor.start = cursor.pos) (plain : state.mode = .plain) :
    readPlain vocabulary cursor state =
      ⟨(scanPlain vocabulary c rest).kind, cursor.move (scanPlain vocabulary c rest).length,
        { state with mode := (scanPlain vocabulary c rest).mode }⟩ := by
  have later := rest_after_first cursor c rest shape
  have eaten (d : Char) := eat_after_first cursor c d rest shape
  have kept : { state with mode := .plain } = state := by
    rw [← plain]
  have ended : cursor.skipToEnd = cursor.move (rest.length + 1) := by
    rw [cursor.skip_to_end_move (Nat.le_of_lt (cursor.rest_inside c rest shape)), shape, List.length_cons]
  have slashed (d : Char) (missed : ¬ (c = '/' ∧ rest.head? = some d)) : ¬ (c = '/' ∧ ((cursor.move 1).eat d).1 = true) := by
    rintro ⟨slash, taken⟩
    rw [eaten, if_neg fun next => missed ⟨slash, next⟩] at taken
    cases taken
  rw [readPlain, cursor.next_some c (congrArg List.head? shape)]
  simp only [scanPlain]
  by_cases opening : c = '(' ∨ c = '{'
  · simp only [if_pos opening, kept]
  simp only [if_neg opening]
  by_cases closing : c = ')' ∨ c = '}'
  · simp only [if_pos closing, kept]
  simp only [if_neg closing]
  by_cases quote : c = '"' ∨ c = '\''
  · simp only [if_pos quote, read_string_eq, later, Cursor.move_move, Nat.add_comm 1]
  simp only [if_neg quote]
  by_cases line : c = '/' ∧ rest.head? = some '/'
  · have taken := (eaten '/').trans (if_pos line.2)
    rw [if_pos line, if_pos ⟨line.1, congrArg Prod.fst taken⟩, taken, kept, ← ended]
    rfl
  rw [if_neg line, if_neg (slashed '/' line)]
  by_cases block : c = '/' ∧ rest.head? = some '*'
  · have taken := (eaten '*').trans (if_pos block.2)
    rw [if_pos block, if_pos ⟨block.1, congrArg Prod.fst taken⟩, taken, read_block_comment cursor _ c rest shape block.2]
  rw [if_neg block, if_neg (slashed '*' block), Cursor.peek, eat_match_point, later]
  by_cases number : isDigit c = true ∧ rest.head?.any isWordChar = false
  · rw [if_pos number, if_pos number, eat_match_number _ (later.symm ▸ number.2), later, Cursor.move_move, Nat.add_comm 1,
      kept]
  rw [if_neg number, if_neg number]
  by_cases point : c = '.' ∧ rest.head?.any isPointDigit = true
  · rw [if_pos point, if_pos point, Cursor.move_move, Nat.add_comm 1, kept]
  · rw [if_neg point, if_neg point, read_word_eq vocabulary cursor state c rest shape marked, scan_word_mode, kept]

theorem read_eq (vocabulary : Vocabulary) (cursor : Cursor) (state : LexState) (c : Char) (rest : Text)
    (shape : cursor.rest = c :: rest) (marked : cursor.start = cursor.pos) :
    read vocabulary cursor state =
      ⟨(scan vocabulary state.mode c rest).kind, cursor.move (scan vocabulary state.mode c rest).length,
        { state with mode := (scan vocabulary state.mode c rest).mode }⟩ := by
  have inside := cursor.rest_inside c rest shape
  unfold read
  split
  · rename_i plain
    rw [read_plain_eq vocabulary cursor state c rest shape marked plain, plain]
    rfl
  · rename_i quote held
    rw [read_string_eq, shape, held]
    rfl
  · rename_i held
    rw [read_comment_eq cursor state (Nat.le_of_lt inside), shape, held]
    rfl

theorem eat_blanks_cons (cursor : Cursor) (c : Char) (rest : Text) (shape : cursor.rest = c :: rest) :
    cursor.eatBlanks =
      if isBlank c then (true, cursor.move ((rest.takeWhile isBlank).length + 1)) else (false, cursor) := by
  rw [Cursor.eatBlanks, Cursor.eatWhile, shape]
  by_cases blank : isBlank c = true
  · rw [List.takeWhile_cons_of_pos blank, if_pos blank]
    rfl
  · rw [List.takeWhile_cons_of_neg blank, if_neg blank]
    rfl

theorem read_token_eq (lexer : Lexer) (cursor : Cursor) (state : LexState) :
    lexer.readToken cursor state =
      (lexer.tokenAt cursor.line cursor.pos state).map fun found =>
        (found.1, ⟨cursor.line, found.1.stop, cursor.pos⟩, found.2) := by
  unfold Lexer.readToken Lexer.tokenAt
  cases shape : cursor.line.drop cursor.pos with
  | nil =>
      rw [if_pos (cursor.at_end_iff.mpr shape)]
      rfl
  | cons c rest =>
      have further : ¬ cursor.atEnd = true := fun ended => by
        have empty := cursor.at_end_iff.mp ended
        rw [Cursor.rest, shape] at empty
        cases empty
      have start : (cursor.atStart = true) = (cursor.pos = 0) := by
        rw [Cursor.atStart, beq_iff_eq]
      have marked : cursor.markStart.rest = c :: rest := shape
      rw [if_neg further]
      simp only [start, eat_blanks_cons _ c rest marked]
      by_cases blank : isBlank c = true
      · have run : (c :: rest).take ((rest.takeWhile isBlank).length + 1) = c :: rest.takeWhile isBlank := by
          rw [List.take_succ_cons, ← List.prefix_iff_eq_take.mp (List.takeWhile_prefix isBlank)]
        simp only [if_pos blank, Option.map_some, Cursor.token_move _ _ _ (rfl : cursor.markStart.start = _), marked, run]
        rfl
      · simp only [if_neg blank, Option.map_some, read_eq lexer.vocabulary cursor.markStart _ c rest marked rfl,
          Cursor.token_move _ _ _ (rfl : cursor.markStart.start = _), marked]
        rfl

theorem token_at_end (lexer : Lexer) (line : Text) (column : Nat) (state : LexState) (past : line.length ≤ column) :
    lexer.tokenAt line column state = none := by
  rw [Lexer.tokenAt, List.drop_eq_nil_of_le past]

theorem next_token_eq (lexer : Lexer) (line : Text) (column : Nat) (state : LexState) :
    lexer.nextToken line column state = lexer.tokenAt line column state := by
  rw [Lexer.nextToken, read_token_eq, Option.map_map]
  have clipped : lexer.tokenAt line (min column line.length) state = lexer.tokenAt line column state := by
    by_cases inside : column ≤ line.length
    · rw [Nat.min_eq_left inside]
    · have past : line.length ≤ column := by omega
      rw [Nat.min_eq_right past, token_at_end _ _ _ _ past, token_at_end _ _ _ _ (Nat.le_refl _)]
  exact (congrArg (Option.map id) clipped).trans (congrFun Option.map_id _)

theorem lex_cursor_mark (lexer : Lexer) (cursor : Cursor) (state : LexState) (start : Nat) :
    lexer.lexCursor { cursor with start := start } state = lexer.lexCursor cursor state := by
  have same : lexer.readToken { cursor with start := start } state = lexer.readToken cursor state := by
    rw [read_token_eq, read_token_eq]
  rw [Lexer.lexCursor, Lexer.lexCursor, same]

theorem lex_cursor_from (lexer : Lexer) (cursor : Cursor) (state : LexState) (inside : cursor.pos ≤ cursor.line.length) :
    lexer.lexCursor cursor state = lexer.lexFrom cursor.line cursor.pos state := by
  rw [Lexer.lexFrom, Cursor.ofColumn, Nat.min_eq_left inside]
  exact (lex_cursor_mark lexer cursor state cursor.pos).symm

end FilterAssist
