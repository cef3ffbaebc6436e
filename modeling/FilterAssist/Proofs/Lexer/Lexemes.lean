import FilterAssist.Lexer.Line

set_option autoImplicit false

/-!
How much of the characters that are left belongs to the next token, as recursions on those
characters. Every lexeme of a non-empty rest takes at least one character of it and no more than
there are.
-/
namespace FilterAssist

structure Stretch where
  length : Nat
  closed : Bool
deriving DecidableEq, Repr

namespace Stretch

def extend (stretch : Stretch) : Stretch :=
  { stretch with length := stretch.length + 1 }

def modeAfter (stretch : Stretch) (inside : LexMode) : LexMode :=
  if stretch.closed then .plain else inside

end Stretch

def stringStretch (quote : Char) (escaped : Bool) : Text → Stretch
  | [] => ⟨0, false⟩
  | c :: rest =>
    if c = quote ∧ escaped = false then ⟨1, true⟩
    else (stringStretch quote (!escaped && c == '\\') rest).extend

def commentStretch : Text → Stretch
  | [] => ⟨0, false⟩
  | c :: rest =>
    if c = '*' ∧ rest.head? = some '/' then ⟨2, true⟩
    else (commentStretch rest).extend

def signLength (text : Text) : Nat :=
  if text.head? = some '+' ∨ text.head? = some '-' then 1 else 0

def exponentLength : Text → Nat
  | [] => 0
  | mark :: rest =>
    if mark = 'e' ∨ mark = 'E' then
      let digits := ((rest.drop (signLength rest)).takeWhile isDigit).length
      if digits = 0 then 0 else 1 + signLength rest + digits
    else 0

def fractionLength : Text → Nat
  | [] => 0
  | point :: rest =>
    let digits := (rest.takeWhile isDigit).length
    if point = '.' ∧ 0 < digits then 1 + digits + exponentLength (rest.drop digits) else 0

structure Lexeme where
  kind : Option TokenKind
  length : Nat
  mode : LexMode
deriving DecidableEq, Repr

def scanWord (vocabulary : Vocabulary) (c : Char) (rest : Text) : Lexeme :=
  let word := c :: rest.takeWhile fun other => !isBlank other && !isBracket other
  let folded := lowerCase word
  match kindBeforePunctuation vocabulary folded with
  | some kind => ⟨some kind, word.length, .plain⟩
  | none =>
    if folded = punctuationStart then
      let whole := c :: rest.takeWhile fun other => !isBlank other
      ⟨kindFromPunctuation vocabulary (lowerCase whole), whole.length, .plain⟩
    else ⟨kindFromPunctuation vocabulary folded, word.length, .plain⟩

def scanPlain (vocabulary : Vocabulary) (c : Char) (rest : Text) : Lexeme :=
  if c = '(' ∨ c = '{' then ⟨some .openBracket, 1, .plain⟩
  else if c = ')' ∨ c = '}' then ⟨some .closeBracket, 1, .plain⟩
  else if c = '"' ∨ c = '\'' then
    let body := stringStretch c false rest
    ⟨some .string, body.length + 1, body.modeAfter (.inString c)⟩
  else if c = '/' ∧ rest.head? = some '/' then ⟨some .comment, rest.length + 1, .plain⟩
  else if c = '/' ∧ rest.head? = some '*' then
    let body := commentStretch (rest.drop 1)
    ⟨some .comment, body.length + 2, body.modeAfter .inComment⟩
  else if isDigit c ∧ rest.head?.any isWordChar = false then
    ⟨some .number, fractionLength rest + 1, .plain⟩
  else if c = '.' ∧ rest.head?.any isPointDigit then
    ⟨some .number, (rest.takeWhile isPointDigit).length + 1, .plain⟩
  else scanWord vocabulary c rest

def scan (vocabulary : Vocabulary) (mode : LexMode) (c : Char) (rest : Text) : Lexeme :=
  match mode with
  | .plain => scanPlain vocabulary c rest
  | .inString quote =>
    let body := stringStretch quote false (c :: rest)
    ⟨some .string, body.length, body.modeAfter (.inString quote)⟩
  | .inComment =>
    let body := commentStretch (c :: rest)
    ⟨some .comment, body.length, body.modeAfter .inComment⟩

def Lexer.tokenAt (lexer : Lexer) (line : Text) (column : Nat) (state : LexState) : Option (Token × LexState) :=
  match line.drop column with
  | [] => none
  | c :: rest =>
    let state := if column = 0 then state.clearPending else state
    if isBlank c then
      let text := c :: rest.takeWhile isBlank
      some (⟨none, text, column, column + text.length⟩, state)
    else
      let lexeme := scan lexer.vocabulary state.mode c rest
      let token : Token := ⟨lexeme.kind, (c :: rest).take lexeme.length, column, column + lexeme.length⟩
      some (token, lexer.track line token { state with mode := lexeme.mode, lastKind := lexeme.kind })

theorem string_stretch_pos (quote : Char) (escaped : Bool) (c : Char) (rest : Text) :
    0 < (stringStretch quote escaped (c :: rest)).length := by
  simp only [stringStretch]
  split <;> simp [Stretch.extend]

theorem comment_stretch_pos (c : Char) (rest : Text) : 0 < (commentStretch (c :: rest)).length := by
  simp only [commentStretch]
  split <;> simp [Stretch.extend]

theorem scan_word_pos (vocabulary : Vocabulary) (c : Char) (rest : Text) :
    0 < (scanWord vocabulary c rest).length := by
  simp only [scanWord]
  split
  · simp
  · split <;> simp

theorem scan_word_mode (vocabulary : Vocabulary) (c : Char) (rest : Text) :
    (scanWord vocabulary c rest).mode = .plain := by
  simp only [scanWord]
  split
  · rfl
  · split <;> rfl

theorem scan_plain_pos (vocabulary : Vocabulary) (c : Char) (rest : Text) :
    0 < (scanPlain vocabulary c rest).length := by
  simp only [scanPlain]
  repeat' split
  all_goals first | exact Nat.succ_pos _ | exact scan_word_pos vocabulary c rest

theorem scan_pos (vocabulary : Vocabulary) (mode : LexMode) (c : Char) (rest : Text) :
    0 < (scan vocabulary mode c rest).length := by
  cases mode with
  | plain => exact scan_plain_pos vocabulary c rest
  | inString quote => exact string_stretch_pos quote false c rest
  | inComment => exact comment_stretch_pos c rest

theorem string_stretch_fits (quote : Char) (escaped : Bool) (text : Text) :
    (stringStretch quote escaped text).length ≤ text.length := by
  induction text generalizing escaped with
  | nil => exact Nat.le_refl 0
  | cons c rest ih =>
      by_cases closes : c = quote ∧ escaped = false
      · simp [stringStretch, closes]
      · rw [stringStretch, if_neg closes, List.length_cons]
        exact Nat.succ_le_succ (ih _)

theorem comment_stretch_fits (text : Text) : (commentStretch text).length ≤ text.length := by
  induction text with
  | nil => exact Nat.le_refl 0
  | cons c rest ih =>
      by_cases closes : c = '*' ∧ rest.head? = some '/'
      · obtain ⟨tail, shape⟩ := List.head?_eq_some_iff.mp closes.2
        rw [commentStretch, if_pos closes, shape]
        exact Nat.le_add_left 2 tail.length
      · rw [commentStretch, if_neg closes, List.length_cons]
        exact Nat.succ_le_succ ih

theorem take_while_fits (test : Char → Bool) (text : Text) : (text.takeWhile test).length ≤ text.length :=
  (List.takeWhile_sublist test).length_le

theorem exponent_length_fits (text : Text) : exponentLength text ≤ text.length := by
  cases text with
  | nil => exact Nat.le_refl 0
  | cons mark rest =>
      by_cases marked : mark = 'e' ∨ mark = 'E'
      · have digits := take_while_fits isDigit (rest.drop (signLength rest))
        simp only [exponentLength, if_pos marked, List.length_drop, List.length_cons] at digits ⊢
        split <;> omega
      · simp [exponentLength, marked]

theorem fraction_length_fits (text : Text) : fractionLength text ≤ text.length := by
  cases text with
  | nil => exact Nat.le_refl 0
  | cons point rest =>
      have digits := take_while_fits isDigit rest
      have exponent := exponent_length_fits (rest.drop (rest.takeWhile isDigit).length)
      rw [List.length_drop] at exponent
      simp only [fractionLength, List.length_cons]
      split <;> omega

theorem scan_word_fits (vocabulary : Vocabulary) (c : Char) (rest : Text) :
    (scanWord vocabulary c rest).length ≤ rest.length + 1 := by
  simp only [scanWord]
  split
  · exact Nat.succ_le_succ (take_while_fits _ rest)
  · split <;> exact Nat.succ_le_succ (take_while_fits _ rest)

theorem scan_plain_fits (vocabulary : Vocabulary) (c : Char) (rest : Text) :
    (scanPlain vocabulary c rest).length ≤ rest.length + 1 := by
  have single : 1 ≤ rest.length + 1 := Nat.le_add_left 1 rest.length
  simp only [scanPlain]
  split
  · exact single
  split
  · exact single
  split
  · exact Nat.succ_le_succ (string_stretch_fits c false rest)
  split
  · exact Nat.le_refl _
  split
  · rename_i opens
    obtain ⟨tail, shape⟩ := List.head?_eq_some_iff.mp opens.2
    rw [shape]
    exact Nat.add_le_add_right (comment_stretch_fits tail) 2
  split
  · exact Nat.succ_le_succ (fraction_length_fits rest)
  split
  · exact Nat.succ_le_succ (take_while_fits isPointDigit rest)
  · exact scan_word_fits vocabulary c rest

theorem scan_fits (vocabulary : Vocabulary) (mode : LexMode) (c : Char) (rest : Text) :
    (scan vocabulary mode c rest).length ≤ rest.length + 1 := by
  cases mode with
  | plain => exact scan_plain_fits vocabulary c rest
  | inString quote => exact string_stretch_fits quote false (c :: rest)
  | inComment => exact comment_stretch_fits (c :: rest)

end FilterAssist
