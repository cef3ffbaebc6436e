import Mathlib
import FilterAssist.Proofs.Lexer.PlainScan

set_option autoImplicit false

/-!
Numbers. Outside strings and comments a number starts at a digit that no word goes on from, or at a point before a
digit or an exponent mark. After a digit the scanner takes the longest numeral that the line starts with there,
so a point without digits after it and an exponent without digits stay outside; after a point it takes all digits
and exponent marks.
-/
namespace FilterAssist

structure Digits (text : Text) : Prop where
  filled : text ≠ []
  digits : ∀ c ∈ text, isDigit c = true

inductive Exponent : Text → Prop
  | power (mark : Char) (sign digits : Text) (marked : mark = 'e' ∨ mark = 'E')
      (signed : sign = [] ∨ sign = ['+'] ∨ sign = ['-']) (raised : Digits digits) : Exponent (mark :: (sign ++ digits))

inductive Fraction : Text → Prop
  | plain (digits : Text) (some : Digits digits) : Fraction ('.' :: digits)
  | raised (digits power : Text) (some : Digits digits) (exponent : Exponent power) : Fraction ('.' :: (digits ++ power))

inductive Numeral : Text → Prop
  | whole (d : Char) (digit : isDigit d = true) : Numeral [d]
  | pointed (d : Char) (fraction : Text) (digit : isDigit d = true) (broken : Fraction fraction) :
      Numeral (d :: fraction)

inductive PointRun : Text → Prop
  | run (marks : Text) (inside : ∀ c ∈ marks, isDigit c = true ∨ c = 'e' ∨ c = 'E') : PointRun ('.' :: marks)

structure LongestFront (form : Text → Prop) (text front : Text) : Prop where
  starts : front <+: text
  fits : form front
  longest : ∀ other, other <+: text → form other → other.length ≤ front.length

def DigitStart (c : Char) (rest : Text) : Prop :=
  isDigit c = true ∧ ∀ next, rest.head? = some next → isLetter next = false ∧ isDigit next = false ∧ next ≠ '_'

def PointStart (c : Char) (rest : Text) : Prop :=
  c = '.' ∧ ∃ next, rest.head? = some next ∧ (isDigit next = true ∨ next = 'e' ∨ next = 'E')

theorem digits_within (digits text : Text) (starts : digits <+: text) (some : Digits digits) :
    digits.length ≤ (text.takeWhile isDigit).length := by
  obtain ⟨later, rfl⟩ := starts
  rw [List.takeWhile_append_of_pos some.digits, List.length_append]
  exact Nat.le_add_right _ _

theorem digits_head (digits text : Text) (starts : digits <+: text) (some : Digits digits) :
    ∃ d, text.head? = Option.some d ∧ isDigit d = true := by
  obtain ⟨later, rfl⟩ := starts
  obtain ⟨d, more, rfl⟩ := List.exists_cons_of_ne_nil some.filled
  exact ⟨d, rfl, some.digits d List.mem_cons_self⟩

theorem digits_taken (text : Text) (some : (text.takeWhile isDigit).length ≠ 0) : Digits (text.takeWhile isDigit) := by
  refine ⟨fun empty => some (by rw [empty]; rfl), fun c member => ?_⟩
  exact List.mem_takeWhile_imp member

theorem digits_before (digits later : Text) (c : Char) (some : Digits digits) (ended : isDigit c = false) :
    (digits ++ c :: later).takeWhile isDigit = digits := by
  rw [List.takeWhile_append_of_pos some.digits, List.takeWhile_cons_of_neg (by simp [ended]), List.append_nil]

theorem run_taken (text : Text) : text.take (text.takeWhile isDigit).length = text.takeWhile isDigit :=
  (List.prefix_iff_eq_take.mp (List.takeWhile_prefix isDigit)).symm

theorem sign_length (sign digits later : Text) (signed : sign = [] ∨ sign = ['+'] ∨ sign = ['-'])
    (some : Digits digits) : signLength (sign ++ (digits ++ later)) = sign.length := by
  rcases signed with rfl | rfl | rfl
  · obtain ⟨d, head, digit⟩ := digits_head digits (digits ++ later) (List.prefix_append digits later) some
    have unsigned : ¬ (d = '+' ∨ d = '-') := by
      rintro (rfl | rfl) <;> exact absurd digit (by decide)
    simp [signLength, head, unsigned]
  · rfl
  · rfl

theorem sign_taken (text : Text) : let sign := text.take (signLength text); sign = [] ∨ sign = ['+'] ∨ sign = ['-'] := by
  cases text with
  | nil => exact .inl rfl
  | cons c rest =>
      by_cases signed : c = '+' ∨ c = '-'
      · rcases signed with rfl | rfl <;> simp [signLength]
      · simp [signLength, signed]

theorem exponent_length_marked (mark : Char) (rest : Text) (marked : mark = 'e' ∨ mark = 'E') :
    exponentLength (mark :: rest) =
      if ((rest.drop (signLength rest)).takeWhile isDigit).length = 0 then 0
      else 1 + signLength rest + ((rest.drop (signLength rest)).takeWhile isDigit).length :=
  if_pos marked

theorem exponent_bound (text front : Text) (starts : front <+: text) (exponent : Exponent front) :
    front.length ≤ exponentLength text := by
  obtain ⟨later, rfl⟩ := starts
  cases exponent with
  | power mark sign digits marked signed raised =>
      have run := digits_within digits (digits ++ later) (List.prefix_append digits later) raised
      have positive := List.length_pos_iff.mpr raised.filled
      rw [List.cons_append, List.append_assoc, exponent_length_marked _ _ marked, sign_length sign digits later signed raised,
        List.drop_left, if_neg (by omega), List.length_cons, List.length_append]
      omega

theorem exponent_taken (text : Text) (some : exponentLength text ≠ 0) : Exponent (text.take (exponentLength text)) := by
  cases text with
  | nil => exact absurd rfl some
  | cons mark rest =>
      by_cases marked : mark = 'e' ∨ mark = 'E'
      · have length := exponent_length_marked mark rest marked
        by_cases none : ((rest.drop (signLength rest)).takeWhile isDigit).length = 0
        · rw [length, if_pos none] at some
          exact absurd rfl some
        · rw [length, if_neg none, Nat.add_assoc, Nat.add_comm, List.take_succ_cons, List.take_add, run_taken]
          exact .power mark _ _ marked (sign_taken rest) (digits_taken _ none)
      · rw [exponentLength, if_neg marked] at some
        exact absurd rfl some

theorem fraction_length_pointed (rest : Text) (some : (rest.takeWhile isDigit).length ≠ 0) :
    fractionLength ('.' :: rest) =
      1 + (rest.takeWhile isDigit).length + exponentLength (rest.drop (rest.takeWhile isDigit).length) :=
  if_pos ⟨rfl, Nat.pos_of_ne_zero some⟩

theorem fraction_bound (text front : Text) (starts : front <+: text) (fraction : Fraction front) :
    front.length ≤ fractionLength text := by
  obtain ⟨later, rfl⟩ := starts
  cases fraction with
  | plain digits some =>
      have run := digits_within digits (digits ++ later) (List.prefix_append digits later) some
      have positive := List.length_pos_iff.mpr some.filled
      rw [List.cons_append, fraction_length_pointed _ (by omega), List.length_cons]
      omega
  | raised digits power some exponent =>
      -- The exponent mark is no digit, so the digits before it are all that are taken.
      have run : ((digits ++ (power ++ later)).takeWhile isDigit) = digits := by
        cases exponent with
        | power mark sign more marked =>
            refine digits_before digits _ mark some ?_
            rcases marked with rfl | rfl <;> decide
      have positive := List.length_pos_iff.mpr some.filled
      have bound := exponent_bound (power ++ later) power (List.prefix_append power later) exponent
      rw [List.cons_append, List.append_assoc, fraction_length_pointed _ (by rw [run]; omega), run, List.drop_left,
        List.length_cons, List.length_append]
      omega

theorem fraction_taken (text : Text) (some : fractionLength text ≠ 0) : Fraction (text.take (fractionLength text)) := by
  cases text with
  | nil => exact absurd rfl some
  | cons point rest =>
      by_cases pointed : point = '.' ∧ 0 < (rest.takeWhile isDigit).length
      · obtain ⟨rfl, positive⟩ := pointed
        have digits := digits_taken rest (by omega)
        rw [fraction_length_pointed rest (by omega), Nat.add_assoc, Nat.add_comm, List.take_succ_cons, List.take_add,
          run_taken]
        by_cases none : exponentLength (rest.drop (rest.takeWhile isDigit).length) = 0
        · rw [none, List.take_zero, List.append_nil]
          exact .plain _ digits
        · exact .raised _ _ digits (exponent_taken _ none)
      · rw [fractionLength, if_neg pointed] at some
        exact absurd rfl some

theorem numeral_longest (c : Char) (rest : Text) (digit : isDigit c = true) :
    LongestFront Numeral (c :: rest) (c :: rest.take (fractionLength rest)) := by
  refine ⟨List.cons_prefix_cons.mpr ⟨rfl, List.take_prefix _ _⟩, ?_, fun other starts numeral => ?_⟩
  · by_cases none : fractionLength rest = 0
    · rw [none, List.take_zero]
      exact .whole c digit
    · exact .pointed c _ digit (fraction_taken rest none)
  · have fits := fraction_length_fits rest
    rw [List.length_cons, List.length_take, Nat.min_eq_left fits]
    cases numeral with
    | whole d => simp
    | pointed d fraction _ broken =>
        have bound := fraction_bound rest fraction (List.cons_prefix_cons.mp starts).2 broken
        rw [List.length_cons]
        omega

theorem point_digit_iff (c : Char) : isPointDigit c = true ↔ isDigit c = true ∨ c = 'e' ∨ c = 'E' := by
  simp [isPointDigit, or_assoc]

theorem point_run_longest (rest : Text) : LongestFront PointRun ('.' :: rest) ('.' :: rest.takeWhile isPointDigit) := by
  refine ⟨List.cons_prefix_cons.mpr ⟨rfl, List.takeWhile_prefix _⟩, ?_, fun other starts run => ?_⟩
  · exact .run _ fun c member => (point_digit_iff c).mp (List.mem_takeWhile_imp member)
  · cases run with
    | run marks inside =>
        obtain ⟨later, rfl⟩ := (List.cons_prefix_cons.mp starts).2
        rw [List.takeWhile_append_of_pos fun c member => (point_digit_iff c).mpr (inside c member)]
        simp

theorem digit_start_iff (c : Char) (rest : Text) :
    DigitStart c rest ↔ isDigit c = true ∧ rest.head?.any isWordChar = false := by
  rw [DigitStart]
  cases rest with
  | nil => simp
  | cons next rest => simp [isWordChar, and_assoc]

theorem point_start_iff (c : Char) (rest : Text) :
    PointStart c rest ↔ c = '.' ∧ rest.head?.any isPointDigit = true := by
  rw [PointStart]
  cases rest with
  | nil => simp
  | cons next rest => simp [point_digit_iff]

theorem word_no_number (vocabulary : Vocabulary) (c : Char) (rest : Text) :
    (scanWord vocabulary c rest).kind ≠ some .number := by
  intro number
  obtain ⟨category, kind⟩ := scan_word_category vocabulary c rest .number number
  cases category <;> cases kind

theorem plain_scan_number (vocabulary : Vocabulary) (c : Char) (rest : Text) (lexeme : Lexeme)
    (shape : PlainScan vocabulary c rest lexeme) (number : lexeme.kind = some .number) :
    DigitStart c rest ∨ PointStart c rest := by
  cases shape with
  | opening => cases number
  | closing => cases number
  | string => cases number
  | lineComment => cases number
  | blockComment => cases number
  | number digit next => exact .inl ((digit_start_iff c rest).mpr ⟨digit, next⟩)
  | pointNumber point next => exact .inr ((point_start_iff c rest).mpr ⟨point, next⟩)
  | word => exact absurd number (word_no_number vocabulary c rest)

theorem scan_digit_start (vocabulary : Vocabulary) (c : Char) (rest : Text) (start : DigitStart c rest) :
    scanPlain vocabulary c rest = ⟨some .number, fractionLength rest + 1, .plain⟩ := by
  obtain ⟨digit, next⟩ := (digit_start_iff c rest).mp start
  exact plain_scan_unique vocabulary c rest _ (.number digit next)

theorem scan_point_start (vocabulary : Vocabulary) (c : Char) (rest : Text) (start : PointStart c rest) :
    scanPlain vocabulary c rest = ⟨some .number, (rest.takeWhile isPointDigit).length + 1, .plain⟩ := by
  obtain ⟨point, next⟩ := (point_start_iff c rest).mp start
  exact plain_scan_unique vocabulary c rest _ (.pointNumber point next)

theorem scan_plain_number_iff (vocabulary : Vocabulary) (c : Char) (rest : Text) :
    (scanPlain vocabulary c rest).kind = some .number ↔ DigitStart c rest ∨ PointStart c rest := by
  constructor
  · exact plain_scan_number vocabulary c rest _ (scan_plain_shape vocabulary c rest)
  · rintro (start | start)
    · rw [scan_digit_start vocabulary c rest start]
    · rw [scan_point_start vocabulary c rest start]

theorem numbers_scanned_longest (lexer : Lexer) (line : Text) (column : Nat) (state : LexState) (c : Char) (rest : Text)
    (plain : state.mode = .plain) (here : line.drop column = c :: rest) (solid : isBlank c = false) :
    ∃ token after, lexer.nextToken line column state = some (token, after) ∧ token.start = column ∧
      (token.kind = some .number ↔ DigitStart c rest ∨ PointStart c rest) ∧
      (DigitStart c rest → LongestFront Numeral (c :: rest) token.text) ∧
      (PointStart c rest → LongestFront PointRun (c :: rest) token.text) := by
  have found := next_token_scan lexer line column state c rest here solid _ rfl
  have scanned : scan lexer.vocabulary state.mode c rest = scanPlain lexer.vocabulary c rest := by rw [plain, scan]
  rw [scanned] at found
  refine ⟨_, _, found, rfl, scan_plain_number_iff lexer.vocabulary c rest, fun start => ?_, fun start => ?_⟩
  · rw [scan_digit_start lexer.vocabulary c rest start]
    exact numeral_longest c rest start.1
  · have point := start.1
    subst point
    have run := point_run_longest rest
    rw [List.prefix_iff_eq_take.mp (List.takeWhile_prefix isPointDigit)] at run
    rw [scan_point_start lexer.vocabulary '.' rest start]
    exact run

theorem numbers_scanned_longest_before_sign :
    let lexer : Lexer := { vocabulary := Vocabulary.ofLists {} }
    let line := "1.5e+ .e3.5".toList
    (LexState.start.mode = .plain ∧ line.drop 0 = '1' :: ".5e+ .e3.5".toList ∧ isBlank '1' = false ∧
        DigitStart '1' ".5e+ .e3.5".toList ∧
        ∃ token after, lexer.nextToken line 0 .start = some (token, after) ∧ token.text = "1.5".toList ∧
          LongestFront Numeral line token.text) ∧
      (line.drop 6 = '.' :: "e3.5".toList ∧ isBlank '.' = false ∧ PointStart '.' "e3.5".toList ∧
        ∃ token after, lexer.nextToken line 6 .start = some (token, after) ∧ token.text = ".e3".toList ∧
          LongestFront PointRun ".e3.5".toList token.text) := by
  intro lexer line
  have digit : DigitStart '1' ".5e+ .e3.5".toList := (digit_start_iff _ _).mpr (by decide)
  have point : PointStart '.' "e3.5".toList := (point_start_iff _ _).mpr (by decide)
  obtain ⟨first, after, found, _, _, numeral, _⟩ :=
    numbers_scanned_longest lexer line 0 .start '1' ".5e+ .e3.5".toList rfl rfl (by decide)
  obtain ⟨second, later, next, _, _, _, run⟩ :=
    numbers_scanned_longest lexer line 6 .start '.' "e3.5".toList rfl rfl (by decide)
  have firstText : (lexer.nextToken line 0 .start).map (fun step => step.1.text) = some "1.5".toList := by decide +kernel
  have secondText : (lexer.nextToken line 6 .start).map (fun step => step.1.text) = some ".e3".toList := by decide +kernel
  rw [found, Option.map_some, Option.some.injEq] at firstText
  rw [next, Option.map_some, Option.some.injEq] at secondText
  exact ⟨⟨rfl, rfl, by decide, digit, first, after, found, firstText, numeral digit⟩,
    rfl, by decide, point, second, later, next, secondText, run point⟩

end FilterAssist
