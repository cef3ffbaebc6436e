import FilterAssist.Proofs.Lexer.Prefix

set_option autoImplicit false

/-!
Strings. One ends at the first quote that is not escaped, reading from the left, or else at the end of
the line, and only then is the lexer left inside it.
-/
namespace FilterAssist

def escapes (escaped : Bool) (text : Text) : Bool :=
  text.foldl (fun escaped c => !escaped && c == '\\') escaped

def Enclosed (quote : Char) (escaped : Bool) (text : Text) : Prop :=
  ∀ before after, text = before ++ quote :: after → escapes escaped before = true

theorem enclosed_nil (quote : Char) (escaped : Bool) : Enclosed quote escaped [] := by
  intro before after split
  simp at split

theorem enclosed_cons (quote : Char) (escaped : Bool) (c : Char) (text : Text) :
    Enclosed quote escaped (c :: text) ↔
      (c = quote → escaped = true) ∧ Enclosed quote (!escaped && c == '\\') text := by
  constructor
  · intro enclosed
    constructor
    · rintro rfl
      exact enclosed [] text rfl
    · rintro before after rfl
      exact enclosed (c :: before) after rfl
  · rintro ⟨first, later⟩ before after split
    cases before with
    | nil => exact first (List.cons.inj split).1
    | cons d before =>
        obtain ⟨rfl, rest⟩ := List.cons.inj split
        exact later before after rest

theorem escapes_append (escaped : Bool) (front back : Text) :
    escapes escaped (front ++ back) = escapes (escapes escaped front) back :=
  List.foldl_append

theorem enclosed_append (quote : Char) (escaped : Bool) (front back : Text) :
    Enclosed quote escaped (front ++ back) ↔
      Enclosed quote escaped front ∧ Enclosed quote (escapes escaped front) back := by
  induction front generalizing escaped with
  | nil => exact (and_iff_right (enclosed_nil quote escaped)).symm
  | cons c front ih =>
      rw [List.cons_append, enclosed_cons, enclosed_cons, ih, and_assoc]
      rfl

theorem string_stretch_cases (quote : Char) (escaped : Bool) (text : Text) :
    (∃ body after, text = body ++ quote :: after ∧ Enclosed quote escaped body ∧ escapes escaped body = false ∧
        stringStretch quote escaped text = ⟨body.length + 1, true⟩) ∨
      (Enclosed quote escaped text ∧ stringStretch quote escaped text = ⟨text.length, false⟩) := by
  induction text generalizing escaped with
  | nil => exact .inr ⟨enclosed_nil quote escaped, rfl⟩
  | cons c rest ih =>
      by_cases closes : c = quote ∧ escaped = false
      · obtain ⟨rfl, rfl⟩ := closes
        exact .inl ⟨[], rest, rfl, enclosed_nil c false, rfl, by simp [stringStretch]⟩
      · have first : c = quote → escaped = true := by
          intro same
          cases escaped with
          | true => rfl
          | false => exact absurd ⟨same, rfl⟩ closes
        rw [stringStretch, if_neg closes]
        rcases ih (!escaped && c == '\\') with ⟨body, after, rfl, enclosed, ends, stretch⟩ | ⟨enclosed, stretch⟩
        · refine .inl ⟨c :: body, after, rfl, (enclosed_cons quote escaped c body).mpr ⟨first, enclosed⟩, ends, ?_⟩
          rw [stretch]
          rfl
        · refine .inr ⟨(enclosed_cons quote escaped c rest).mpr ⟨first, enclosed⟩, ?_⟩
          rw [stretch]
          rfl

theorem closing_quote_unique (quote : Char) (escaped : Bool) (one two oneAfter twoAfter : Text)
    (same : one ++ quote :: oneAfter = two ++ quote :: twoAfter)
    (enclosedOne : Enclosed quote escaped one) (endsOne : escapes escaped one = false)
    (enclosedTwo : Enclosed quote escaped two) (endsTwo : escapes escaped two = false) : one = two := by
  induction one generalizing escaped two with
  | nil =>
      cases two with
      | nil => rfl
      | cons c two =>
          obtain ⟨rfl, _⟩ := List.cons.inj same
          have bare : escaped = true := ((enclosed_cons quote escaped quote two).mp enclosedTwo).1 rfl
          rw [bare] at endsOne
          cases endsOne
  | cons c one ih =>
      cases two with
      | nil =>
          obtain ⟨rfl, _⟩ := List.cons.inj same
          have bare : escaped = true := ((enclosed_cons c escaped c one).mp enclosedOne).1 rfl
          rw [bare] at endsTwo
          cases endsTwo
      | cons d two =>
          obtain ⟨rfl, rest⟩ := List.cons.inj same
          have deeper := ih _ two rest ((enclosed_cons quote escaped c one).mp enclosedOne).2 endsOne
            ((enclosed_cons quote escaped c two).mp enclosedTwo).2 endsTwo
          rw [deeper]

theorem settle_align_mode (state : LexState) (alignBrackets : Bool) :
    (state.settleAlign alignBrackets).mode = state.mode := by
  unfold LexState.settleAlign
  split <;> rfl

theorem close_mode (state : LexState) (c : Char) : (state.close c).mode = state.mode := by
  unfold LexState.close
  split
  · split <;> rfl
  · rfl

theorem track_mode (lexer : Lexer) (line : Text) (token : Token) (state : LexState) :
    (lexer.track line token state).mode = state.mode := by
  unfold Lexer.track
  split
  · rfl
  · split
    · rfl
    · dsimp only
      split
      · rw [close_mode, settle_align_mode]
      · exact settle_align_mode state lexer.layout.alignBrackets

theorem before_punctuation_category (vocabulary : Vocabulary) (word : Text) (kind : TokenKind)
    (found : kindBeforePunctuation vocabulary word = some kind) : ∃ category : WordCategory, category.kind = kind := by
  unfold kindBeforePunctuation at found
  split at found
  · exact ⟨.operator, Option.some.inj found⟩
  · split at found
    · exact ⟨.logical, Option.some.inj found⟩
    · split at found
      · exact ⟨.keyword, Option.some.inj found⟩
      · cases found

theorem from_punctuation_category (vocabulary : Vocabulary) (word : Text) (kind : TokenKind)
    (found : kindFromPunctuation vocabulary word = some kind) : ∃ category : WordCategory, category.kind = kind := by
  unfold kindFromPunctuation at found
  split at found
  · exact ⟨.punctuationControl, Option.some.inj found⟩
  · split at found
    · exact ⟨.target, Option.some.inj found⟩
    · cases found

theorem scan_word_category (vocabulary : Vocabulary) (c : Char) (rest : Text) (kind : TokenKind)
    (found : (scanWord vocabulary c rest).kind = some kind) : ∃ category : WordCategory, category.kind = kind := by
  simp only [scanWord] at found
  split at found
  · rename_i other led
    exact before_punctuation_category vocabulary _ kind (led.trans found)
  · split at found <;> exact from_punctuation_category vocabulary _ kind found

theorem mode_after_in_comment (body : Stretch) (quote : Char) : body.modeAfter .inComment ≠ .inString quote := by
  unfold Stretch.modeAfter
  split <;> simp

theorem scan_plain_string (vocabulary : Vocabulary) (c : Char) (rest : Text)
    (string : (scanPlain vocabulary c rest).kind = some .string) :
    IsQuote c ∧ scanPlain vocabulary c rest = ⟨some .string, (stringStretch c false rest).length + 1,
      (stringStretch c false rest).modeAfter (.inString c)⟩ := by
  by_cases quote : c = '"' ∨ c = '\''
  · refine ⟨quote, ?_⟩
    rcases quote with rfl | rfl <;> rfl
  · have word : (scanWord vocabulary c rest).kind ≠ some .string := by
      intro found
      obtain ⟨category, same⟩ := scan_word_category vocabulary c rest .string found
      cases category <;> cases same
    simp only [scanPlain, if_neg quote] at string
    repeat' split at string
    all_goals first | cases string | exact absurd string word

theorem scan_in_string (vocabulary : Vocabulary) (mode : LexMode) (c : Char) (rest : Text) (quote : Char)
    (inside : (scan vocabulary mode c rest).mode = .inString quote) :
    (scan vocabulary mode c rest).kind = some .string := by
  cases mode with
  | plain =>
      have word := scan_word_mode vocabulary c rest
      simp only [scan, scanPlain] at inside ⊢
      repeat' split at inside
      all_goals simp_all [mode_after_in_comment]
  | inString _ => rfl
  | inComment => exact absurd inside (mode_after_in_comment _ quote)

def stringToken (quote : Char) (start : Nat) (rest : Text) : Token :=
  ⟨some .string, quote :: rest.take (stringStretch quote false rest).length, start,
    start + ((stringStretch quote false rest).length + 1)⟩

theorem next_token_quote (lexer : Lexer) (front rest : Text) (quote : Char) (state : LexState) (mark : IsQuote quote)
    (plain : state.mode = .plain) :
    ∃ after, lexer.nextToken (front ++ quote :: rest) front.length state =
      some (stringToken quote front.length rest, after) := by
  have solid : isBlank quote = false := by rcases mark with rfl | rfl <;> decide
  have scanned : scan lexer.vocabulary state.mode quote rest =
      ⟨some .string, (stringStretch quote false rest).length + 1,
        (stringStretch quote false rest).modeAfter (.inString quote)⟩ := by
    rw [plain]
    rcases mark with rfl | rfl <;> rfl
  exact ⟨_, next_token_scan lexer _ front.length state quote rest List.drop_left solid _ scanned.symm⟩

end FilterAssist
