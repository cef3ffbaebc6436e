import FilterAssist.Proofs.Lexer.Strings

set_option autoImplicit false

/-!
All that the scanner can take outside strings and block comments, each with the characters it takes it
at. A word is what is left when nothing else fits.
-/
namespace FilterAssist

inductive PlainScan (vocabulary : Vocabulary) (c : Char) (rest : Text) : Lexeme → Prop
  | opening (bracket : c = '(' ∨ c = '{') : PlainScan vocabulary c rest ⟨some .openBracket, 1, .plain⟩
  | closing (bracket : c = ')' ∨ c = '}') : PlainScan vocabulary c rest ⟨some .closeBracket, 1, .plain⟩
  | string (quote : IsQuote c) :
      PlainScan vocabulary c rest ⟨some .string, (stringStretch c false rest).length + 1,
        (stringStretch c false rest).modeAfter (.inString c)⟩
  | lineComment (slash : c = '/') (next : rest.head? = some '/') :
      PlainScan vocabulary c rest ⟨some .comment, rest.length + 1, .plain⟩
  | blockComment (slash : c = '/') (next : rest.head? = some '*') :
      PlainScan vocabulary c rest ⟨some .comment, (commentStretch (rest.drop 1)).length + 2,
        (commentStretch (rest.drop 1)).modeAfter .inComment⟩
  | number (digit : isDigit c = true) (next : rest.head?.any isWordChar = false) :
      PlainScan vocabulary c rest ⟨some .number, fractionLength rest + 1, .plain⟩
  | pointNumber (point : c = '.') (next : rest.head?.any isPointDigit = true) :
      PlainScan vocabulary c rest ⟨some .number, (rest.takeWhile isPointDigit).length + 1, .plain⟩
  | word (solid : isBracket c = false) (unquoted : ¬ IsQuote c)
      (uncommented : c = '/' → rest.head? ≠ some '/' ∧ rest.head? ≠ some '*')
      (unnumbered : isDigit c = true → rest.head?.any isWordChar = true)
      (unpointed : c = '.' → rest.head?.any isPointDigit = false) :
      PlainScan vocabulary c rest (scanWord vocabulary c rest)

theorem scan_plain_shape (vocabulary : Vocabulary) (c : Char) (rest : Text) :
    PlainScan vocabulary c rest (scanPlain vocabulary c rest) := by
  unfold scanPlain
  by_cases opening : c = '(' ∨ c = '{'
  · rw [if_pos opening]
    exact .opening opening
  rw [if_neg opening]
  by_cases closing : c = ')' ∨ c = '}'
  · rw [if_pos closing]
    exact .closing closing
  rw [if_neg closing]
  by_cases quote : c = '"' ∨ c = '\''
  · rw [if_pos quote]
    exact .string quote
  rw [if_neg quote]
  by_cases line : c = '/' ∧ rest.head? = some '/'
  · rw [if_pos line]
    exact .lineComment line.1 line.2
  rw [if_neg line]
  by_cases block : c = '/' ∧ rest.head? = some '*'
  · rw [if_pos block]
    exact .blockComment block.1 block.2
  rw [if_neg block]
  by_cases number : isDigit c = true ∧ rest.head?.any isWordChar = false
  · rw [if_pos number]
    exact .number number.1 number.2
  rw [if_neg number]
  by_cases point : c = '.' ∧ rest.head?.any isPointDigit = true
  · rw [if_pos point]
    exact .pointNumber point.1 point.2
  rw [if_neg point]
  refine .word ?_ quote ?_ ?_ ?_
  · simp only [not_or] at opening closing
    simp [isBracket, opening, closing]
  · exact fun slash => ⟨fun next => line ⟨slash, next⟩, fun next => block ⟨slash, next⟩⟩
  · exact fun digit => by simpa [digit] using number
  · exact fun dot => by simpa [dot] using point

theorem plain_scan_unique (vocabulary : Vocabulary) (c : Char) (rest : Text) (lexeme : Lexeme)
    (shape : PlainScan vocabulary c rest lexeme) : scanPlain vocabulary c rest = lexeme := by
  cases shape with
  | opening bracket => rcases bracket with rfl | rfl <;> rfl
  | closing bracket => rcases bracket with rfl | rfl <;> rfl
  | string quote => rcases quote with rfl | rfl <;> rfl
  | lineComment slash next =>
      subst slash
      simp [scanPlain, next]
  | blockComment slash next =>
      subst slash
      simp [scanPlain, next]
  | number digit next =>
      have other (mark : Char) (undigit : isDigit mark = false) : c ≠ mark := by
        rintro rfl
        exact absurd (undigit.symm.trans digit) Bool.false_ne_true
      simp [scanPlain, digit, next, other '(' (by decide), other '{' (by decide), other ')' (by decide),
        other '}' (by decide), other '"' (by decide), other '\'' (by decide), other '/' (by decide)]
  | pointNumber point next =>
      subst point
      simp [scanPlain, next, isDigit]
  | word solid unquoted uncommented unnumbered unpointed =>
      simp only [isBracket, Bool.or_eq_false_iff, beq_eq_false_iff_ne] at solid
      have quote : ¬ (c = '"' ∨ c = '\'') := unquoted
      have line : ¬ (c = '/' ∧ rest.head? = some '/') := fun marked => (uncommented marked.1).1 marked.2
      have block : ¬ (c = '/' ∧ rest.head? = some '*') := fun marked => (uncommented marked.1).2 marked.2
      have number : ¬ (isDigit c = true ∧ rest.head?.any isWordChar = false) := by
        rintro ⟨digit, next⟩
        exact absurd (next.symm.trans (unnumbered digit)) Bool.false_ne_true
      have point : ¬ (c = '.' ∧ rest.head?.any isPointDigit = true) := by
        rintro ⟨dot, next⟩
        exact absurd ((unpointed dot).symm.trans next) Bool.false_ne_true
      rw [scanPlain, if_neg (by simp [solid]), if_neg (by simp [solid]), if_neg quote, if_neg line, if_neg block,
        if_neg number, if_neg point]

theorem scan_shape (vocabulary : Vocabulary) (mode : LexMode) (c : Char) (rest : Text) (lexeme : Lexeme)
    (plain : mode = .plain) (scanned : lexeme = scan vocabulary mode c rest) : PlainScan vocabulary c rest lexeme := by
  rw [scanned, plain]
  exact scan_plain_shape vocabulary c rest

end FilterAssist
