import FilterAssist.Lexer.Cursor
import FilterAssist.Lexer.State
import FilterAssist.Vocabulary

set_option autoImplicit false

/-!
Reading one token off a line: outside strings and comments, inside a string, inside a block comment.
-/
namespace FilterAssist

def isWordChar (c : Char) : Bool :=
  isLetter c || isDigit c || c == '_'

def isBracket (c : Char) : Bool :=
  c == '(' || c == ')' || c == '{' || c == '}'

def punctuationStart : Text :=
  "[keep".toList

def readString (quote : Char) (escaped : Bool) (cursor : Cursor) (state : LexState) : Cursor × LexState :=
  match _taken : cursor.next with
  | (none, _) => (cursor, state)
  | (some c, after) =>
    if c = quote ∧ escaped = false then (after, { state with mode := .plain })
    else readString quote (!escaped && c == '\\') after state
termination_by cursor.rest.length
decreasing_by
  rw [(cursor.next_taken _ _ _taken).1]
  exact Nat.lt_succ_self _

def readComment (cursor : Cursor) (state : LexState) : Cursor × LexState :=
  match _found : cursor.skipTo '*' with
  | (false, _) => (cursor.skipToEnd, state)
  | (true, star) =>
    match _missed : star.next.2.eat '/' with
    | (true, after) => (after, { state with mode := .plain })
    | (false, after) => readComment after state
termination_by cursor.rest.length
decreasing_by
  obtain ⟨front, -, parts, -⟩ := cursor.skip_to_past _ _ _found
  rw [(Cursor.eat_missed _ _ _ _missed).2, parts]
  simp
  omega

structure Reading where
  kind : Option TokenKind
  cursor : Cursor
  state : LexState
deriving DecidableEq, Repr

def kindBeforePunctuation (vocabulary : Vocabulary) (word : Text) : Option TokenKind :=
  if vocabulary.contains .operator word then some .operator
  else if vocabulary.isLogical word then some .logical
  else if vocabulary.contains .keyword word || isNamespacedTag word then some .keyword
  else none

def kindFromPunctuation (vocabulary : Vocabulary) (word : Text) : Option TokenKind :=
  if vocabulary.contains .punctuationControl word then some .punctuation
  else if vocabulary.contains .target word then some .target
  else none

def readWord (vocabulary : Vocabulary) (cursor : Cursor) (state : LexState) : Reading :=
  let cursor := (cursor.eatWhile fun c => !isBlank c && !isBracket c).2
  let word := lowerCase cursor.current
  match kindBeforePunctuation vocabulary word with
  | some kind => ⟨some kind, cursor, state⟩
  | none =>
    if word = punctuationStart then
      let cursor := (cursor.eatWhile fun c => !isBlank c).2
      ⟨kindFromPunctuation vocabulary (lowerCase cursor.current), cursor, state⟩
    else ⟨kindFromPunctuation vocabulary word, cursor, state⟩

def readPlain (vocabulary : Vocabulary) (cursor : Cursor) (state : LexState) : Reading :=
  match cursor.next with
  | (none, _) => ⟨none, cursor, state⟩
  | (some c, after) =>
    if c = '(' ∨ c = '{' then ⟨some .openBracket, after, state⟩
    else if c = ')' ∨ c = '}' then ⟨some .closeBracket, after, state⟩
    else if c = '"' ∨ c = '\'' then
      let ended := readString c false after { state with mode := .inString c }
      ⟨some .string, ended.1, ended.2⟩
    else if c = '/' ∧ (after.eat '/').1 then ⟨some .comment, (after.eat '/').2.skipToEnd, state⟩
    else if c = '/' ∧ (after.eat '*').1 then
      let ended := readComment (after.eat '*').2 { state with mode := .inComment }
      ⟨some .comment, ended.1, ended.2⟩
    else if isDigit c ∧ after.peek.any isWordChar = false then
      ⟨some .number, (after.eatMatch numberTail).2, state⟩
    else if c = '.' ∧ (after.eatMatch pointTail).1 then ⟨some .number, (after.eatMatch pointTail).2, state⟩
    else readWord vocabulary after state

def read (vocabulary : Vocabulary) (cursor : Cursor) (state : LexState) : Reading :=
  match state.mode with
  | .plain => readPlain vocabulary cursor state
  | .inString quote =>
    let ended := readString quote false cursor state
    ⟨some .string, ended.1, ended.2⟩
  | .inComment =>
    let ended := readComment cursor state
    ⟨some .comment, ended.1, ended.2⟩

theorem read_string_shorter (quote : Char) (escaped : Bool) (cursor : Cursor) (state : LexState) :
    (readString quote escaped cursor state).1.rest.length ≤ cursor.rest.length - 1 := by
  fun_induction readString quote escaped cursor state with
  | case1 escaped cursor _ missing =>
      rw [cursor.next_missing _ missing]
      exact Nat.le_refl _
  | case2 escaped cursor c after taken closed =>
      rw [(cursor.next_taken _ _ taken).1]
      exact Nat.le_refl _
  | case3 escaped cursor c after taken further ih =>
      rw [(cursor.next_taken _ _ taken).1]
      exact Nat.le_trans ih (Nat.sub_le ..)

theorem read_comment_shorter (cursor : Cursor) (state : LexState) :
    (readComment cursor state).1.rest.length ≤ cursor.rest.length - 1 := by
  fun_induction readComment cursor state with
  | case1 cursor _ missing =>
      rw [cursor.rest_skip_to_end]
      exact Nat.zero_le _
  | case2 cursor star found after ended =>
      obtain ⟨front, -, parts, -⟩ := cursor.skip_to_past _ _ found
      have taken := star.next.2.rest_eat_le '/'
      simp only [ended] at taken
      rw [parts]
      simp only [List.length_append, List.length_cons]
      omega
  | case3 cursor star found after missed ih =>
      obtain ⟨front, -, parts, -⟩ := cursor.skip_to_past _ _ found
      rw [(Cursor.eat_missed _ _ _ missed).2] at ih ⊢
      rw [parts]
      simp only [List.length_append, List.length_cons]
      omega

theorem read_word_rest_le (vocabulary : Vocabulary) (cursor : Cursor) (state : LexState) :
    (readWord vocabulary cursor state).cursor.rest.length ≤ cursor.rest.length := by
  simp only [readWord]
  split
  · exact cursor.rest_move_le _
  · split
    · exact Nat.le_trans (Cursor.rest_move_le ..) (cursor.rest_move_le _)
    · exact cursor.rest_move_le _

theorem read_plain_shorter (vocabulary : Vocabulary) (cursor : Cursor) (state : LexState) :
    (readPlain vocabulary cursor state).cursor.rest.length ≤ cursor.rest.length - 1 := by
  unfold readPlain
  split
  · rename_i missing
    rw [cursor.next_missing _ missing]
    exact Nat.le_refl _
  · rename_i c after taken
    rw [(cursor.next_taken _ _ taken).1]
    simp only [List.length_cons, Nat.add_sub_cancel]
    repeat' split
    · exact Nat.le_refl _
    · exact Nat.le_refl _
    · exact Nat.le_trans (read_string_shorter ..) (Nat.sub_le ..)
    · rw [Cursor.rest_skip_to_end]
      exact Nat.zero_le _
    · exact Nat.le_trans (read_comment_shorter ..) (Nat.le_trans (Nat.sub_le ..) (after.rest_eat_le _))
    · exact after.rest_eat_match_le _
    · exact after.rest_eat_match_le _
    · exact read_word_rest_le vocabulary after state

theorem read_shorter (vocabulary : Vocabulary) (cursor : Cursor) (state : LexState) :
    (read vocabulary cursor state).cursor.rest.length ≤ cursor.rest.length - 1 := by
  unfold read
  split
  · exact read_plain_shorter vocabulary cursor state
  · exact read_string_shorter ..
  · exact read_comment_shorter ..

end FilterAssist
