import Mathlib
import FilterAssist.Proofs.Field.Delimiters
import FilterAssist.Proofs.Lexer.PlainScan

set_option autoImplicit false

/-!
Where strings and block comments end. Both are a search for the first end mark in the characters after
the opening one, or in the rest of a line that starts inside; without an end mark the line is taken whole.
-/
namespace FilterAssist

-- The backslashes right before the quote are even in number. Those before the part that is scanned do not count.
def QuoteEnds (quote : Char) (scanned : Text) (index : Nat) : Prop :=
  scanned[index]? = some quote ∧ endsEscaped (scanned.take index) = false

def MarkEnds (scanned : Text) (index : Nat) : Prop :=
  scanned[index]? = some '*' ∧ scanned[index + 1]? = some '/'

def Stretch.Reaches (stretch : Stretch) (ends : Nat → Prop) (width count : Nat) : Prop :=
  (∃ index, ends index ∧ (∀ earlier, earlier < index → ¬ ends earlier) ∧ stretch = ⟨index + width, true⟩) ∨
    ((∀ index, ¬ ends index) ∧ stretch = ⟨count, false⟩)

inductive StringFrom (line : Text) (column : Nat) : LexMode → Char → Nat → Prop
  | opened (quote : Char) (rest : Text) (shape : line.drop column = quote :: rest) (mark : IsQuote quote) :
      StringFrom line column .plain quote (column + 1)
  | resumed (quote c : Char) (rest : Text) (shape : line.drop column = c :: rest) (solid : isBlank c = false) :
      StringFrom line column (.inString quote) quote column

inductive CommentFrom (line : Text) (column : Nat) : LexMode → Nat → Prop
  | opened (rest : Text) (shape : line.drop column = '/' :: '*' :: rest) : CommentFrom line column .plain (column + 2)
  | resumed (c : Char) (rest : Text) (shape : line.drop column = c :: rest) (solid : isBlank c = false) :
      CommentFrom line column .inComment column

-- What is read from column `first` on ends behind the first end mark, and with it the mode; without an end mark it
-- ends with the line, and the mode goes on.
def Runs (ends : Text → Nat → Prop) (width : Nat) (inside : LexMode) (line : Text) (first stop : Nat)
    (mode : LexMode) : Prop :=
  (∃ index, ends (line.drop first) index ∧ (∀ earlier, earlier < index → ¬ ends (line.drop first) earlier) ∧
      stop = first + index + width ∧ mode = .plain) ∨
    ((∀ index, ¬ ends (line.drop first) index) ∧ stop = line.length ∧ mode = inside)

theorem quote_ends_front (quote : Char) (front back : Text) (index : Nat) (inside : index < front.length) :
    QuoteEnds quote (front ++ back) index ↔ QuoteEnds quote front index := by
  rw [QuoteEnds, QuoteEnds, List.getElem?_append_left inside, List.take_append_of_le_length (Nat.le_of_lt inside)]

theorem enclosed_no_end (quote : Char) (text : Text) (enclosed : Enclosed quote false text) (index : Nat) :
    ¬ QuoteEnds quote text index := by
  rintro ⟨found, unescaped⟩
  obtain ⟨inside, rfl⟩ := List.getElem?_eq_some_iff.mp found
  have split : text = text.take index ++ text[index] :: text.drop (index + 1) := by
    rw [← List.drop_eq_getElem_cons inside, List.take_append_drop]
  have escaped := enclosed _ _ split
  rw [escapes_ends, unescaped] at escaped
  cases escaped

theorem string_stretch_reaches (quote : Char) (text : Text) :
    (stringStretch quote false text).Reaches (QuoteEnds quote text) 1 text.length := by
  rcases string_stretch_cases quote false text with ⟨body, after, rfl, enclosed, ends, stretch⟩ | ⟨enclosed, stretch⟩
  · refine .inl ⟨body.length, ⟨by simp, ?_⟩, ?_, stretch⟩
    · rw [List.take_left, ← escapes_ends, ends]
    · intro earlier inside found
      exact enclosed_no_end quote body enclosed earlier ((quote_ends_front quote body _ earlier inside).mp found)
  · exact .inr ⟨enclosed_no_end quote text enclosed, stretch⟩

theorem reaches_extend (stretch : Stretch) (ends : Nat → Prop) (width count : Nat)
    (reaches : stretch.Reaches (fun index => ends (index + 1)) width count) (first : ¬ ends 0) :
    stretch.extend.Reaches ends width (count + 1) := by
  rcases reaches with ⟨index, found, none, rfl⟩ | ⟨none, rfl⟩
  · refine .inl ⟨index + 1, found, ?_, ?_⟩
    · intro earlier before
      cases earlier with
      | zero => exact first
      | succ earlier => exact none earlier (Nat.lt_of_succ_lt_succ before)
    · simp [Stretch.extend, Nat.add_right_comm]
  · refine .inr ⟨?_, rfl⟩
    intro index
    cases index with
    | zero => exact first
    | succ index => exact none index

theorem comment_stretch_reaches (text : Text) : (commentStretch text).Reaches (MarkEnds text) 2 text.length := by
  induction text with
  | nil => exact .inr ⟨fun index found => (by simp [MarkEnds] at found), rfl⟩
  | cons c rest ih =>
      have front : MarkEnds (c :: rest) 0 ↔ c = '*' ∧ rest.head? = some '/' := by
        rw [MarkEnds, List.head?_eq_getElem?]
        simp
      by_cases closes : c = '*' ∧ rest.head? = some '/'
      · rw [commentStretch, if_pos closes]
        exact .inl ⟨0, front.mpr closes, fun earlier before => absurd before (Nat.not_lt_zero earlier), rfl⟩
      · rw [commentStretch, if_neg closes]
        exact reaches_extend _ _ 2 rest.length ih (fun found => closes (front.mp found))

theorem next_token_runs (lexer : Lexer) (line : Text) (column : Nat) (state : LexState) (c : Char)
    (rest front back : Text) (shape : line.drop column = c :: rest) (solid : isBlank c = false)
    (parts : c :: rest = front ++ back) (kind : TokenKind) (stretch : Stretch) (inside : LexMode)
    (scanned : scan lexer.vocabulary state.mode c rest =
      ⟨some kind, stretch.length + front.length, stretch.modeAfter inside⟩)
    (ends : Text → Nat → Prop) (width : Nat) (reaches : stretch.Reaches (ends back) width back.length) :
    ∃ token after, lexer.nextToken line column state = some (token, after) ∧ token.kind = some kind ∧
      token.start = column ∧ Runs ends width inside line (column + front.length) token.stop after.mode := by
  have step := next_token_scan lexer line column state c rest shape solid _ scanned.symm
  have size := congrArg List.length (shape.trans parts)
  have filled := congrArg List.length parts
  have later : line.drop (column + front.length) = back := by
    rw [← List.drop_drop, shape, parts, List.drop_left]
  rw [List.length_drop, List.length_append] at size
  rw [List.length_cons, List.length_append] at filled
  refine ⟨_, _, step, rfl, rfl, ?_⟩
  rw [track_mode, Runs, later]
  rcases reaches with ⟨index, found, none, rfl⟩ | ⟨none, rfl⟩
  · exact .inl ⟨index, found, none, by dsimp only; omega, rfl⟩
  · exact .inr ⟨none, by dsimp only; omega, rfl⟩

theorem next_token_string (lexer : Lexer) (line : Text) (column : Nat) (state : LexState) (quote : Char) (first : Nat)
    (enters : StringFrom line column state.mode quote first) :
    ∃ token after, lexer.nextToken line column state = some (token, after) ∧ token.kind = some .string ∧
      token.start = column ∧ Runs (QuoteEnds quote) 1 (.inString quote) line first token.stop after.mode := by
  generalize entered : state.mode = mode at enters
  cases enters with
  | opened _ rest shape mark =>
      have solid : isBlank quote = false := by rcases mark with rfl | rfl <;> decide
      refine next_token_runs lexer line column state quote rest [quote] rest shape solid rfl .string _ _ ?_ _ 1
        (string_stretch_reaches quote rest)
      rw [entered]
      rcases mark with rfl | rfl <;> rfl
  | resumed _ c rest shape solid =>
      refine next_token_runs lexer line column state c rest [] (c :: rest) shape solid rfl .string _ _ ?_ _ 1
        (string_stretch_reaches quote (c :: rest))
      rw [entered]
      rfl

theorem next_token_comment (lexer : Lexer) (line : Text) (column : Nat) (state : LexState) (first : Nat)
    (enters : CommentFrom line column state.mode first) :
    ∃ token after, lexer.nextToken line column state = some (token, after) ∧ token.kind = some .comment ∧
      token.start = column ∧ Runs MarkEnds 2 .inComment line first token.stop after.mode := by
  generalize entered : state.mode = mode at enters
  cases enters with
  | opened rest shape =>
      refine next_token_runs lexer line column state '/' ('*' :: rest) ['/', '*'] rest shape (by decide) rfl .comment _ _
        ?_ _ 2 (comment_stretch_reaches rest)
      rw [entered]
      rfl
  | resumed c rest shape solid =>
      refine next_token_runs lexer line column state c rest [] (c :: rest) shape solid rfl .comment _ _ ?_ _ 2
        (comment_stretch_reaches (c :: rest))
      rw [entered]
      rfl

theorem string_entered (lexer : Lexer) (line : Text) (column : Nat) (state after : LexState) (token : Token)
    (found : lexer.nextToken line column state = some (token, after)) (string : token.kind = some .string) :
    ∃ quote first, StringFrom line column state.mode quote first := by
  obtain ⟨c, rest, shape, step⟩ := next_token_cases lexer line column state after token found
  rcases step with ⟨_, _, rfl⟩ | ⟨lexeme, solid, scanned, rfl, _⟩
  · cases string
  · cases mode : state.mode with
    | plain =>
        rw [scanned, mode] at string
        exact ⟨c, column + 1, .opened c rest shape (scan_plain_string lexer.vocabulary c rest string).1⟩
    | inString quote => exact ⟨quote, column, .resumed quote c rest shape solid⟩
    | inComment =>
        rw [scanned, mode] at string
        cases string

theorem comment_entered (lexer : Lexer) (line : Text) (column : Nat) (state after : LexState) (token : Token)
    (found : lexer.nextToken line column state = some (token, after)) (comment : token.kind = some .comment) :
    (∃ first, CommentFrom line column state.mode first) ∨
      (state.mode = .plain ∧ ∃ rest, line.drop column = '/' :: '/' :: rest) := by
  obtain ⟨c, rest, shape, step⟩ := next_token_cases lexer line column state after token found
  rcases step with ⟨_, _, rfl⟩ | ⟨lexeme, solid, scanned, rfl, _⟩
  · cases comment
  · cases mode : state.mode with
    | plain =>
        dsimp only at comment
        cases scan_shape lexer.vocabulary state.mode c rest lexeme mode scanned with
        | opening => cases comment
        | closing => cases comment
        | string => cases comment
        | lineComment slash next =>
            obtain ⟨tail, rfl⟩ := List.head?_eq_some_iff.mp next
            exact .inr ⟨rfl, tail, by rw [shape, slash]⟩
        | blockComment slash next =>
            obtain ⟨tail, rfl⟩ := List.head?_eq_some_iff.mp next
            exact .inl ⟨column + 2, .opened tail (by rw [shape, slash])⟩
        | number => cases comment
        | pointNumber => cases comment
        | word =>
            obtain ⟨category, same⟩ := scan_word_category lexer.vocabulary c rest .comment comment
            cases category <;> cases same
    | inString quote =>
        rw [scanned, mode] at comment
        cases comment
    | inComment => exact .inl ⟨column, .resumed c rest shape solid⟩

theorem strings_and_comments_end (lexer : Lexer) (line : Text) (column : Nat) (state : LexState) :
    (∀ quote first, StringFrom line column state.mode quote first →
      ∃ token after, lexer.nextToken line column state = some (token, after) ∧ token.kind = some .string ∧
        token.start = column ∧ Runs (QuoteEnds quote) 1 (.inString quote) line first token.stop after.mode) ∧
    (∀ first, CommentFrom line column state.mode first →
      ∃ token after, lexer.nextToken line column state = some (token, after) ∧ token.kind = some .comment ∧
        token.start = column ∧ Runs MarkEnds 2 .inComment line first token.stop after.mode) ∧
    (∀ token after, lexer.nextToken line column state = some (token, after) →
      (token.kind = some .string → ∃ quote first, StringFrom line column state.mode quote first) ∧
      (token.kind = some .comment → (∃ first, CommentFrom line column state.mode first) ∨
        (state.mode = .plain ∧ ∃ rest, line.drop column = '/' :: '/' :: rest))) := by
  refine ⟨next_token_string lexer line column state, next_token_comment lexer line column state, ?_⟩
  intro token after found
  exact ⟨string_entered lexer line column state after token found,
    comment_entered lexer line column state after token found⟩

theorem strings_and_comments_end_after_runs :
    let lexer : Lexer := { vocabulary := Vocabulary.ofLists {} }
    let string := "'\\\\'b'".toList
    let comment := "/*/ **/".toList
    (StringFrom string 0 .plain '\'' 1 ∧ Runs (QuoteEnds '\'') 1 (.inString '\'') string 1 4 .plain) ∧
      (CommentFrom comment 0 .plain 2 ∧ Runs MarkEnds 2 .inComment comment 2 7 .plain) ∧
      ∃ token after, lexer.nextToken comment 0 .start = some (token, after) ∧ token.kind = some .comment ∧
        ((∃ first, CommentFrom comment 0 .plain first) ∨
          (LexMode.plain = .plain ∧ ∃ rest, comment.drop 0 = '/' :: '/' :: rest)) := by
  intro lexer string comment
  have quoted : lexer.nextToken string 0 .start =
      some (⟨some .string, "'\\\\'".toList, 0, 4⟩, { lastKind := some .string }) := (next_token_eq ..).trans rfl
  have remarked : lexer.nextToken comment 0 .start =
      some (⟨some .comment, comment, 0, 7⟩, { lastKind := some .comment }) := (next_token_eq ..).trans rfl
  have opened : StringFrom string 0 .plain '\'' 1 := .opened '\'' _ rfl (.inr rfl)
  have started : CommentFrom comment 0 .plain 2 := .opened _ rfl
  obtain ⟨strings, _, _⟩ := strings_and_comments_end lexer string 0 .start
  obtain ⟨_, comments, entered⟩ := strings_and_comments_end lexer comment 0 .start
  obtain ⟨token, after, next, _, _, closed⟩ := strings '\'' 1 opened
  obtain ⟨rfl, rfl⟩ := Prod.mk.inj (Option.some.inj (quoted.symm.trans next))
  obtain ⟨token, after, next, _, _, ended⟩ := comments 2 started
  obtain ⟨rfl, rfl⟩ := Prod.mk.inj (Option.some.inj (remarked.symm.trans next))
  exact ⟨⟨opened, closed⟩, ⟨started, ended⟩, _, _, remarked, rfl, (entered _ _ remarked).2 rfl⟩

end FilterAssist
