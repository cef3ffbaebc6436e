import Mathlib
import FilterAssist.Proofs.Lexer.PlainScan
import FilterAssist.Proofs.Text.LowerCase

set_option autoImplicit false

/-!
Words: where they end, and what kind they have. A word ends before a blank or a bracket and is of the kind
that the vocabulary gives to its text. Punctuation control with its brackets goes on to the next blank, and
of the vocabulary only two categories can give it a kind.
-/
namespace FilterAssist

def TokenKind.isWord : TokenKind → Bool
  | .operator | .logical | .keyword | .punctuation | .target => true
  | _ => false

def Token.IsWord (token : Token) : Prop :=
  match token.kind with
  | some kind => kind.isWord = true
  | none => token.isWhitespace = false

def SpansBrackets (text : Text) : Prop :=
  ∃ head bracket tail, text = head ++ bracket :: tail ∧ head.length = 5 ∧ lowerCase head = punctuationStart ∧
    isBracket bracket = true

structure EndsBefore (test : Char → Bool) (line : Text) (start stop : Nat) : Prop where
  forward : start < stop
  inside : ∀ column, start < column → column < stop → (line.drop column).head?.any test = false
  ended : stop = line.length ∨ (line.drop stop).head?.any test = true

namespace Vocabulary

def precedence : List WordCategory :=
  [.operator, .logical, .unary, .keyword, .punctuationControl, .target]

def accepts (vocabulary : Vocabulary) (text : Text) (category : WordCategory) : Bool :=
  vocabulary.contains category text || (category == .keyword && isNamespacedTag (lowerCase text))

def firstKind (vocabulary : Vocabulary) (categories : List WordCategory) (text : Text) : Option TokenKind :=
  (categories.find? (vocabulary.accepts text)).map WordCategory.kind

theorem first_kind_cons (vocabulary : Vocabulary) (category : WordCategory) (categories : List WordCategory)
    (text : Text) : vocabulary.firstKind (category :: categories) text =
      if vocabulary.accepts text category = true then some category.kind else vocabulary.firstKind categories text := by
  unfold firstKind
  rw [List.find?_cons]
  split <;> simp_all

theorem first_kind_append (vocabulary : Vocabulary) (earlier later : List WordCategory) (text : Text) :
    vocabulary.firstKind (earlier ++ later) text =
      (vocabulary.firstKind earlier text).or (vocabulary.firstKind later text) := by
  rw [firstKind, firstKind, firstKind, List.find?_append, Option.map_or]

theorem contains_lowered (vocabulary : Vocabulary) (category : WordCategory) (text : Text) :
    vocabulary.contains category (lowerCase text) = vocabulary.contains category text := by
  rw [contains, contains, WordSet.contains, WordSet.contains, lower_case_final]

theorem accepts_other (vocabulary : Vocabulary) (text : Text) (category : WordCategory) (other : category ≠ .keyword) :
    vocabulary.accepts text category = vocabulary.contains category text := by
  simp [accepts, other]

theorem first_kind_lowered (vocabulary : Vocabulary) (categories : List WordCategory) (text : Text) :
    vocabulary.firstKind categories (lowerCase text) = vocabulary.firstKind categories text := by
  have same : vocabulary.accepts (lowerCase text) = vocabulary.accepts text := by
    funext category
    rw [accepts, accepts, contains_lowered, lower_case_final]
  rw [firstKind, firstKind, same]

theorem before_punctuation_first (vocabulary : Vocabulary) (text : Text) :
    kindBeforePunctuation vocabulary (lowerCase text) =
      vocabulary.firstKind [.operator, .logical, .unary, .keyword] text := by
  rw [first_kind_cons, first_kind_cons, first_kind_cons, first_kind_cons, accepts_other _ _ _ (by decide),
    accepts_other _ _ _ (by decide), accepts_other _ _ _ (by decide)]
  simp only [kindBeforePunctuation, isLogical, contains_lowered]
  by_cases logical : vocabulary.contains .logical text = true
  · simp only [logical, Bool.true_or, if_true]
    rfl
  · simp only [logical, Bool.false_or]
    rfl

theorem from_punctuation_first (vocabulary : Vocabulary) (text : Text) :
    kindFromPunctuation vocabulary (lowerCase text) = vocabulary.firstKind [.punctuationControl, .target] text := by
  rw [first_kind_cons, first_kind_cons, accepts_other _ _ _ (by decide), accepts_other _ _ _ (by decide)]
  simp only [kindFromPunctuation, contains_lowered]
  rfl

-- The lexer asks in two chains, each of which lowers once more what is lower case already.
theorem classify_chains (vocabulary : Vocabulary) (text : Text) :
    vocabulary.classify text =
      (kindBeforePunctuation vocabulary (lowerCase text)).or (kindFromPunctuation vocabulary (lowerCase text)) := by
  have held (category : WordCategory) :
      vocabulary.holds category (lowerCase text) = vocabulary.contains category text := rfl
  simp only [classify, held, kindBeforePunctuation, kindFromPunctuation, isLogical, contains_lowered]
  by_cases operator : vocabulary.contains .operator text = true
  · rw [if_pos operator, if_pos operator, Option.some_or]
  rw [if_neg operator, if_neg operator]
  by_cases logical : (vocabulary.contains .logical text || vocabulary.contains .unary text) = true
  · rw [if_pos logical, if_pos logical, Option.some_or]
  rw [if_neg logical, if_neg logical]
  by_cases keyword : (vocabulary.contains .keyword text || isNamespacedTag (lowerCase text)) = true
  · rw [if_pos keyword, if_pos keyword, Option.some_or]
  · rw [if_neg keyword, if_neg keyword, Option.none_or]

theorem classify_first (vocabulary : Vocabulary) (text : Text) :
    vocabulary.classify text = vocabulary.firstKind precedence text := by
  rw [classify_chains, before_punctuation_first, from_punctuation_first, ← first_kind_append]
  rfl

end Vocabulary

theorem punctuation_start_length (text : Text) (reads : lowerCase text = punctuationStart) : text.length = 5 := by
  have undotted : '\u0307' ∉ lowerCase text := by
    rw [reads]
    decide
  rw [← lower_from_length [] text undotted]
  exact congrArg List.length reads

theorem ends_before_run (test : Char → Bool) (line : Text) (column : Nat) (c : Char) (front back : Text)
    (shape : line.drop column = c :: (front ++ back)) (inside : ∀ d ∈ front, test d = false)
    (ended : ∀ d, back.head? = some d → test d = true) :
    EndsBefore test line column (column + (front.length + 1)) := by
  have later (offset : Nat) : line.drop (column + (offset + 1)) = (front ++ back).drop offset := by
    rw [← List.drop_drop, shape, List.drop_succ_cons]
  have size := congrArg List.length shape
  rw [List.length_drop, List.length_cons, List.length_append] at size
  refine ⟨by omega, ?_, ?_⟩
  · intro place after before
    obtain ⟨offset, rfl⟩ : ∃ offset, place = column + (offset + 1) := ⟨place - column - 1, by omega⟩
    have taken : offset < front.length := by omega
    rw [later, List.head?_drop, List.getElem?_append_left taken, List.getElem?_eq_getElem taken]
    exact inside _ (List.getElem_mem taken)
  · rw [later, List.drop_left]
    cases back with
    | nil =>
        left
        rw [List.length_nil] at size
        omega
    | cons d back => exact .inr (ended d rfl)

theorem run_parts (test : Char → Bool) (text : Text) :
    ∃ back, text = text.takeWhile (fun c => !test c) ++ back ∧
      (∀ c ∈ text.takeWhile (fun c => !test c), test c = false) ∧ ∀ c, back.head? = some c → test c = true := by
  refine ⟨text.dropWhile fun c => !test c, List.takeWhile_append_dropWhile.symm, ?_, ?_⟩
  · intro c member
    simpa using List.mem_takeWhile_imp member
  · intro c first
    have kept := List.head?_dropWhile_not (fun c => !test c) text
    rw [first] at kept
    simpa using kept

theorem control_rest (back : Text) (ended : ∀ d, back.head? = some d → (isBlank d || isBracket d) = true) :
    back.takeWhile (fun d => !isBlank d) = [] ∨
      ∃ bracket tail, back.takeWhile (fun d => !isBlank d) = bracket :: tail ∧ isBracket bracket = true := by
  cases back with
  | nil => exact .inl rfl
  | cons d back =>
      rw [List.takeWhile_cons]
      have stops := ended d rfl
      by_cases blank : isBlank d = true
      · simp [blank]
      · simp only [blank, Bool.false_or] at stops
        simp [blank, stops]

theorem scan_word_cases (vocabulary : Vocabulary) (c : Char) (rest : Text) :
    ∃ front back, rest = front ++ back ∧ (scanWord vocabulary c rest).length = front.length + 1 ∧
      (((∀ d ∈ front, (isBlank d || isBracket d) = false) ∧
          (∀ d, back.head? = some d → (isBlank d || isBracket d) = true) ∧
          (scanWord vocabulary c rest).kind = vocabulary.classify (c :: front)) ∨
        (SpansBrackets (c :: front) ∧ (∀ d ∈ front, isBlank d = false) ∧
          (∀ d, back.head? = some d → isBlank d = true) ∧
          (scanWord vocabulary c rest).kind = kindFromPunctuation vocabulary (lowerCase (c :: front)))) := by
  have ends : (fun other => !isBlank other && !isBracket other) = fun other => !(isBlank other || isBracket other) := by
    funext other
    rw [Bool.not_or]
  obtain ⟨back, split, inside, ended⟩ := run_parts (fun d => isBlank d || isBracket d) rest
  obtain ⟨later, wholeSplit, wholeInside, wholeEnded⟩ := run_parts isBlank rest
  generalize wordEq : rest.takeWhile (fun other => !(isBlank other || isBracket other)) = word at split inside
  generalize wholeEq : rest.takeWhile (fun other => !isBlank other) = whole at wholeSplit wholeInside
  have parts : whole = word ++ back.takeWhile (fun d => !isBlank d) := by
    rw [← wholeEq, split, List.takeWhile_append_of_pos]
    intro d member
    have outside := inside d member
    simp only [Bool.or_eq_false_iff] at outside
    simp [outside.1]
  simp only [scanWord, ends, wordEq, wholeEq]
  cases leading : kindBeforePunctuation vocabulary (lowerCase (c :: word)) with
  | some kind =>
      refine ⟨word, back, split, rfl, .inl ⟨inside, ended, ?_⟩⟩
      rw [Vocabulary.classify_chains, leading]
      rfl
  | none =>
      have trailing : vocabulary.classify (c :: word) = kindFromPunctuation vocabulary (lowerCase (c :: word)) := by
        rw [Vocabulary.classify_chains, leading]
        rfl
      by_cases control : lowerCase (c :: word) = punctuationStart
      · simp only [if_pos control]
        rcases control_rest back ended with none | ⟨bracket, tail, more, opens⟩
        · rw [none, List.append_nil] at parts
          rw [parts]
          exact ⟨word, back, split, rfl, .inl ⟨inside, ended, trailing.symm⟩⟩
        · rw [more] at parts
          have spans : SpansBrackets (c :: whole) :=
            ⟨c :: word, bracket, tail, congrArg (List.cons c) parts, punctuation_start_length _ control, control, opens⟩
          exact ⟨whole, later, wholeSplit, rfl, .inr ⟨spans, wholeInside, wholeEnded, rfl⟩⟩
      · simp only [if_neg control]
        exact ⟨word, back, split, rfl, .inl ⟨inside, ended, trailing.symm⟩⟩

theorem plain_word_spans_none (c : Char) (front : Text) (inside : ∀ d ∈ front, (isBlank d || isBracket d) = false) :
    ¬ SpansBrackets (c :: front) := by
  rintro ⟨head, bracket, tail, split, five, _, opens⟩
  cases head with
  | nil => cases five
  | cons first head =>
      obtain ⟨_, rfl⟩ := List.cons.inj split
      have outside := inside bracket (by simp)
      simp [opens] at outside

theorem blank_token_no_word (c : Char) (rest : Text) (start stop : Nat) (blank : isBlank c = true) :
    ¬ Token.IsWord ⟨none, c :: rest.takeWhile isBlank, start, stop⟩ := by
  have run : (rest.takeWhile isBlank).all isBlank = true := List.all_takeWhile
  simp [Token.IsWord, Token.isWhitespace, Text.allBlank, blank, run]

theorem word_scanned (vocabulary : Vocabulary) (mode : LexMode) (c : Char) (rest : Text) (lexeme : Lexeme)
    (scanned : lexeme = scan vocabulary mode c rest) (text : Text) (start stop : Nat)
    (word : Token.IsWord ⟨lexeme.kind, text, start, stop⟩) : lexeme = scanWord vocabulary c rest := by
  cases mode with
  | plain =>
      cases scan_shape vocabulary .plain c rest lexeme rfl scanned with
      | opening => cases word
      | closing => cases word
      | string => cases word
      | lineComment => cases word
      | blockComment => cases word
      | number => cases word
      | pointNumber => cases word
      | word => rfl
  | inString quote =>
      rw [scanned] at word
      cases word
  | inComment =>
      rw [scanned] at word
      cases word

theorem next_token_word (lexer : Lexer) (line : Text) (column : Nat) (state after : LexState) (token : Token)
    (found : lexer.nextToken line column state = some (token, after)) (word : token.IsWord) :
    (¬ SpansBrackets token.text ∧ token.kind = lexer.vocabulary.classify token.text ∧
        EndsBefore (fun c => isBlank c || isBracket c) line token.start token.stop) ∨
      (SpansBrackets token.text ∧ token.kind = kindFromPunctuation lexer.vocabulary (lowerCase token.text) ∧
        EndsBefore isBlank line token.start token.stop) := by
  obtain ⟨c, rest, shape, step⟩ := next_token_cases lexer line column state after token found
  rcases step with ⟨blank, _, rfl⟩ | ⟨lexeme, _, scanned, rfl, _⟩
  · exact absurd word (blank_token_no_word c rest _ _ blank)
  · have read := word_scanned lexer.vocabulary state.mode c rest lexeme scanned _ _ _ word
    obtain ⟨front, back, rfl, size, cases⟩ := scan_word_cases lexer.vocabulary c rest
    have text : (c :: (front ++ back)).take lexeme.length = c :: front := by
      rw [read, size, List.take_succ_cons, List.take_left]
    rw [← read] at size cases
    dsimp only
    rw [text, size]
    rcases cases with ⟨inside, ended, kind⟩ | ⟨spans, inside, ended, kind⟩
    · exact .inl ⟨plain_word_spans_none c front inside, kind, ends_before_run _ line column c front back shape inside ended⟩
    · exact .inr ⟨spans, kind, ends_before_run _ line column c front back shape inside ended⟩

theorem words_classified (lexer : Lexer) (line : Text) (column : Nat) (state : LexState) (token : Token)
    (emitted : token ∈ (lexer.lexFrom line column state).1) (word : token.IsWord) :
    (¬ SpansBrackets token.text →
      token.kind = lexer.vocabulary.classify token.text ∧
        token.kind = lexer.vocabulary.firstKind Vocabulary.precedence token.text ∧
        token.kind = lexer.vocabulary.firstKind Vocabulary.precedence (lowerCase token.text) ∧
        EndsBefore (fun c => isBlank c || isBracket c) line token.start token.stop) ∧
    (SpansBrackets token.text →
      token.kind =
          (if lexer.vocabulary.contains .punctuationControl token.text then some .punctuation
          else if lexer.vocabulary.contains .target token.text then some .target
          else none) ∧
        token.kind = lexer.vocabulary.firstKind [.punctuationControl, .target] (lowerCase token.text) ∧
        EndsBefore isBlank line token.start token.stop) := by
  obtain ⟨earlier, later, split⟩ := List.append_of_mem emitted
  obtain ⟨reached, after, _, found⟩ := lex_from_split lexer line column state earlier later token split
  rw [Vocabulary.first_kind_lowered, Vocabulary.first_kind_lowered]
  rcases next_token_word lexer line token.start reached after token found word with
    ⟨plain, kind, ended⟩ | ⟨spans, kind, ended⟩
  · have first := kind.trans (Vocabulary.classify_first lexer.vocabulary token.text)
    exact ⟨fun _ => ⟨kind, first, first, ended⟩, fun spans => absurd spans plain⟩
  · have first := kind.trans (Vocabulary.from_punctuation_first lexer.vocabulary token.text)
    simp only [kindFromPunctuation, Vocabulary.contains_lowered] at kind
    exact ⟨fun plain => absurd spans plain, fun _ => ⟨kind, first, ended⟩⟩

-- The vocabulary lists the whole of punctuation control as an operator too, but the lexer asks for operators when
-- it has read no further than the bracket.
theorem words_classified_before_operator :
    let control := "[keep(x)]".toList
    let lists : WordLists := { operators := [control, "in".toList], punctuationControl := [control] }
    let lexer : Lexer := { vocabulary := Vocabulary.ofLists lists }
    let line := "[KEEP(x)] in(".toList
    let first : Token := ⟨some .punctuation, "[KEEP(x)]".toList, 0, 9⟩
    let second : Token := ⟨some .operator, "in".toList, 10, 12⟩
    (first ∈ (lexer.lexFrom line 0 .start).1 ∧ first.IsWord ∧ SpansBrackets first.text ∧
        lexer.vocabulary.classify first.text = some .operator ∧
        first.kind =
          (if lexer.vocabulary.contains .punctuationControl first.text then some .punctuation
          else if lexer.vocabulary.contains .target first.text then some .target
          else none) ∧
        EndsBefore isBlank line 0 9) ∧
      (second ∈ (lexer.lexFrom line 10 .start).1 ∧ second.IsWord ∧ ¬ SpansBrackets second.text ∧
        second.kind = lexer.vocabulary.classify second.text ∧
        EndsBefore (fun c => isBlank c || isBracket c) line 10 12) := by
  intro control lists lexer line first second
  have whole : lexer.nextToken line 0 .start = some (first, { lastKind := some .punctuation }) := by decide +kernel
  have operator : lexer.nextToken line 10 .start = some (second, { lastKind := some .operator }) := by decide +kernel
  have emitted : first ∈ (lexer.lexFrom line 0 .start).1 := by
    rw [lex_from_step lexer line 0 _ _ _ whole]
    exact List.mem_cons_self
  have followed : second ∈ (lexer.lexFrom line 10 .start).1 := by
    rw [lex_from_step lexer line 10 _ _ _ operator]
    exact List.mem_cons_self
  have spans : SpansBrackets first.text := ⟨"[KEEP".toList, '(', "x)]".toList, rfl, rfl, by decide +kernel, rfl⟩
  have plain : ¬ SpansBrackets second.text := plain_word_spans_none 'i' ['n'] (List.forall_mem_singleton.mpr (by decide))
  obtain ⟨_, control⟩ := words_classified lexer line 0 .start first emitted rfl
  obtain ⟨word, _⟩ := words_classified lexer line 10 .start second followed rfl
  obtain ⟨kind, _, _, ended⟩ := word plain
  obtain ⟨controlled, _, spanned⟩ := control spans
  exact ⟨⟨emitted, rfl, spans, by decide +kernel, controlled, spanned⟩, followed, rfl, plain, kind, ended⟩

end FilterAssist
