import Mathlib
import FilterAssist.Proofs.Lexer.EndMarks
import FilterAssist.Proofs.Lexer.LayoutIndependence
import FilterAssist.Proofs.Text.Pieces

set_option autoImplicit false

/-!
Blanks cut a line in two. No scan sees through a blank: the tokens before it are those of the line cut off
there, and the tokens after it are those of a line of its own, moved to the right.
-/
namespace FilterAssist

-- The scan is over before the characters are, or it ends where they do without asking for more. A line comment
-- would go on.
def Lexeme.Ended (lexeme : Lexeme) (rest : Text) : Prop :=
  lexeme.length ≤ rest.length ∨ (lexeme.mode = .plain ∧ lexeme.kind ≠ some .comment)

theorem blank_severs (c : Char) (blank : isBlank c = true) : Severs c := by
  have code := blank_code c blank
  have other (mark : Char) (printed : 32 < mark.toNat ∧ mark.toNat ≤ 127) : c ≠ mark := by
    rintro rfl
    omega
  have letter : isLetter c = false := by
    by_contra found
    simp only [isLetter, Bool.not_eq_false, Bool.or_eq_true, Bool.and_eq_true, decide_eq_true_eq] at found
    have bounds : (97 ≤ c.toNat ∧ c.toNat ≤ 122) ∨ (65 ≤ c.toNat ∧ c.toNat ≤ 90) := found
    omega
  have digit : isDigit c = false := by
    by_contra found
    simp only [isDigit, Bool.not_eq_false, Bool.and_eq_true, decide_eq_true_eq] at found
    have bounds : 48 ≤ c.toNat ∧ c.toNat ≤ 57 := found
    omega
  refine ⟨?_, other '.' (by decide), ⟨other '+' (by decide), other '-' (by decide)⟩,
    ⟨other '/' (by decide), other '*' (by decide)⟩⟩
  simp [isWordChar, letter, digit, other '_' (by decide)]

theorem string_stretch_append (quote : Char) (escaped : Bool) (text more : Text)
    (closed : (stringStretch quote escaped text).closed = true) :
    stringStretch quote escaped (text ++ more) = stringStretch quote escaped text := by
  induction text generalizing escaped with
  | nil => cases closed
  | cons c rest ih =>
      rw [stringStretch] at closed
      rw [List.cons_append, stringStretch, stringStretch]
      by_cases closes : c = quote ∧ escaped = false
      · rw [if_pos closes, if_pos closes]
      · rw [if_neg closes] at closed
        rw [if_neg closes, if_neg closes, ih _ closed]

theorem comment_stretch_append (text more : Text) (closed : (commentStretch text).closed = true) :
    commentStretch (text ++ more) = commentStretch text := by
  induction text with
  | nil => cases closed
  | cons c rest ih =>
      rw [commentStretch] at closed
      rw [List.cons_append, commentStretch, commentStretch]
      cases rest with
      | nil =>
          rw [if_neg (by simp)] at closed
          cases closed
      | cons d rest =>
          have same : (d :: rest ++ more).head? = (d :: rest).head? := rfl
          rw [same]
          by_cases closes : c = '*' ∧ (d :: rest).head? = some '/'
          · rw [if_pos closes, if_pos closes]
          · rw [if_neg closes] at closed
            rw [if_neg closes, if_neg closes, ih closed]

theorem stretch_ended (stretch : Stretch) (inside : LexMode) (ends : Nat → Prop) (width size : Nat)
    (entered : inside ≠ .plain) (reaches : stretch.Reaches ends width size)
    (ended : stretch.length < size ∨ stretch.modeAfter inside = .plain) : stretch.closed = true := by
  rcases reaches with ⟨index, _, _, rfl⟩ | ⟨_, rfl⟩
  · rfl
  · rcases ended with short | plain
    · exact absurd short (Nat.lt_irrefl size)
    · exact absurd plain entered

theorem scan_word_before_blank (vocabulary : Vocabulary) (d c : Char) (front tail : Text) (blank : isBlank c = true) :
    scanWord vocabulary d (front ++ c :: tail) = scanWord vocabulary d front := by
  simp only [scanWord, take_while_stops (fun other => !isBlank other && !isBracket other) front tail c (by simp [blank]),
    take_while_stops (fun other => !isBlank other) front tail c (by simp [blank])]

theorem scan_plain_before_blank (vocabulary : Vocabulary) (d c : Char) (front tail : Text) (blank : isBlank c = true)
    (ends : (scanPlain vocabulary d front).Ended front) :
    scanPlain vocabulary d (front ++ c :: tail) = scanPlain vocabulary d front := by
  have severs := blank_severs c blank
  have shape := scan_plain_shape vocabulary d front
  generalize scanPlain vocabulary d front = lexeme at shape ends
  apply plain_scan_unique
  cases shape with
  | opening bracket => exact .opening bracket
  | closing bracket => exact .closing bracket
  | string quote =>
      have closed := stretch_ended (stringStretch d false front) (.inString d) _ 1 front.length (by simp)
        (string_stretch_reaches d front) (ends.imp Nat.lt_of_succ_le And.left)
      rw [← string_stretch_append d false front (c :: tail) closed]
      exact .string quote
  | lineComment slash next =>
      rcases ends with short | ⟨_, uncommented⟩
      · exact absurd short (Nat.not_succ_le_self _)
      · exact absurd rfl uncommented
  | blockComment slash next =>
      obtain ⟨body, rfl⟩ := List.head?_eq_some_iff.mp next
      have closed := stretch_ended (commentStretch body) .inComment _ 2 body.length (by simp)
        (comment_stretch_reaches body) (ends.imp Nat.lt_of_succ_lt_succ And.left)
      rw [List.drop_succ_cons, List.drop_zero, ← comment_stretch_append body (c :: tail) closed]
      exact .blockComment slash rfl
  | number digit next =>
      rw [← fraction_length_severed front tail c severs]
      exact .number digit ((head_severed_any front tail c isWordChar severs.outside).trans next)
  | pointNumber point next =>
      have undigit := severs_point_digit c severs
      rw [← take_while_stops isPointDigit front tail c undigit]
      exact .pointNumber point ((head_severed_any front tail c isPointDigit undigit).trans next)
  | word solid unquoted uncommented unnumbered unpointed =>
      rw [← scan_word_before_blank vocabulary d c front tail blank]
      refine .word solid unquoted ?_ ?_ ?_
      · rw [Ne, Ne, head_severed_iff front tail c '/' severs.unmarked.1, head_severed_iff front tail c '*' severs.unmarked.2]
        exact uncommented
      · rw [head_severed_any front tail c isWordChar severs.outside]
        exact unnumbered
      · rw [head_severed_any front tail c isPointDigit (severs_point_digit c severs)]
        exact unpointed

theorem scan_before_blank (vocabulary : Vocabulary) (mode : LexMode) (d c : Char) (front tail : Text)
    (blank : isBlank c = true) (ends : (scan vocabulary mode d front).Ended front) :
    scan vocabulary mode d (front ++ c :: tail) = scan vocabulary mode d front := by
  cases mode with
  | plain => exact scan_plain_before_blank vocabulary d c front tail blank ends
  | inString quote =>
      have closed := stretch_ended (stringStretch quote false (d :: front)) (.inString quote) _ 1 (d :: front).length
        (by simp) (string_stretch_reaches quote (d :: front)) (ends.imp Nat.lt_succ_of_le And.left)
      have same := string_stretch_append quote false (d :: front) (c :: tail) closed
      rw [List.cons_append] at same
      simp only [scan, same]
  | inComment =>
      have closed := stretch_ended (commentStretch (d :: front)) .inComment _ 2 (d :: front).length (by simp)
        (comment_stretch_reaches (d :: front)) (ends.imp Nat.lt_succ_of_le And.left)
      have same := comment_stretch_append (d :: front) (c :: tail) closed
      rw [List.cons_append] at same
      simp only [scan, same]

theorem blanks_inside (text more : Text) (last : Char) (ends : text.getLast? = some last)
    (solid : isBlank last = false) : (text ++ more).takeWhile isBlank = text.takeWhile isBlank := by
  obtain ⟨front, rfl⟩ := List.getLast?_eq_some_iff.mp ends
  rw [List.append_assoc, List.singleton_append, take_while_stops isBlank front more last solid,
    take_while_stops isBlank front [] last solid]

theorem next_token_before_blank (lexer : Lexer) (line tail : Text) (c last : Char) (column : Nat)
    (state after : LexState) (token : Token) (blank : isBlank c = true) (ends : line.getLast? = some last)
    (solid : isBlank last = false) (found : lexer.nextToken line column state = some (token, after))
    (ended : token.stop < line.length ∨ (after.mode = .plain ∧ token.kind ≠ some .comment)) :
    lexer.nextToken (line ++ c :: tail) column state = some (token, after) := by
  have inside := next_token_column_lt lexer _ _ _ _ _ found
  obtain ⟨d, rest, shape, step⟩ := next_token_cases lexer line column state after token found
  have longer : (line ++ c :: tail).drop column = d :: (rest ++ c :: tail) := by
    rw [List.drop_append_of_le_length (Nat.le_of_lt inside), shape, List.cons_append]
  rcases step with ⟨first, rfl, rfl⟩ | ⟨lexeme, filled, scanned, rfl, rfl⟩
  · have ending : (d :: rest).getLast? = some last := by
      rw [← shape, List.getLast?_drop, if_neg (Nat.not_le_of_lt inside), ends]
    have run := blanks_inside (d :: rest) (c :: tail) last ending solid
    rw [List.cons_append, List.takeWhile_cons_of_pos first, List.takeWhile_cons_of_pos first] at run
    rw [next_token_blank lexer _ column state d _ longer first, (List.cons.inj run).2]
  · have size := congrArg List.length shape
    rw [List.length_drop, List.length_cons] at size
    have finished : lexeme.Ended rest := by
      rw [track_mode] at ended
      refine ended.imp (fun short => ?_) id
      dsimp only at short
      omega
    have fits := scan_fits lexer.vocabulary state.mode d rest
    rw [← scanned] at fits
    have again : lexeme = scan lexer.vocabulary state.mode d (rest ++ c :: tail) := by
      rw [scanned] at finished
      rw [scanned, scan_before_blank lexer.vocabulary state.mode d c rest tail blank finished]
    rw [next_token_scan lexer _ column state d _ longer filled lexeme again, ← List.cons_append,
      List.take_append_of_le_length fits]
    rw [track_same_line lexer (line ++ c :: tail) line _ _ (blanks_inside line (c :: tail) last ends solid)
      (List.take_append_of_le_length (Nat.le_of_lt inside))]

theorem token_run_before_blank (lexer : Lexer) (line tail : Text) (c last : Char) (column : Nat)
    (state final : LexState) (tokens : List Token) (blank : isBlank c = true) (ends : line.getLast? = some last)
    (solid : isBlank last = false) (inside : column ≤ line.length)
    (run : TokenRun lexer line column state tokens final) (plain : final.mode = .plain)
    (uncommented : ∀ token, tokens.getLast? = some token → token.kind ≠ some .comment) :
    TokenPath lexer (line ++ c :: tail) column state tokens line.length final := by
  induction run with
  | done column state ended =>
      have past := (next_token_none_iff lexer line column state).mp ended
      rw [Nat.le_antisymm inside past]
      exact .done line.length state
  | step column state after final token tokens found rest ih =>
      have fits := (next_token_span lexer line column state after token found).2.2.1
      have ended : token.stop < line.length ∨ (after.mode = .plain ∧ token.kind ≠ some .comment) := by
        by_cases short : token.stop < line.length
        · exact .inl short
        · -- Nothing is left, so this token is the last one and the state after it is the final one.
          cases rest with
          | done _ _ _ => exact .inr ⟨plain, uncommented token rfl⟩
          | step _ _ next _ other _ further _ =>
              exact absurd (next_token_column_lt lexer _ _ _ _ _ further) short
      have again := next_token_before_blank lexer line tail c last column state after token blank ends solid found ended
      refine .step column line.length state after final token tokens again (ih fits plain ?_)
      intro other ending
      apply uncommented other
      rw [List.getLast?_cons, ending]
      rfl

theorem lex_from_shifted (lexer : Lexer) (front line : Text) (state : LexState) (plain : state.mode = .plain) :
    (lexer.lexFrom (front ++ line) front.length state).1 =
      (lexer.lexLine line .start).1.map (Token.shift front.length) := by
  -- What stands before a column matters to the tokens after it only through the mode there.
  obtain ⟨reached, run, _⟩ := token_run_shifted lexer lexer front line 0 LexState.start.clearPending state _ _ rfl
    plain.symm (token_run_exists lexer line 0 LexState.start.clearPending)
  rw [Nat.zero_add] at run
  rw [← token_run_unique lexer _ _ state reached _ run]
  rfl

theorem lex_line_local_at_blanks (lexer : Lexer) (state : LexState) (before gap after : Text) (last : Char)
    (ends : before.getLast? = some last) (solid : isBlank last = false) (wide : gap ≠ [])
    (blank : ∀ c ∈ gap, isBlank c = true) (resumes : ∀ c, after.head? = some c → isBlank c = false)
    (plain : (lexer.lexLine before state).2.mode = .plain)
    (uncommented : ∀ token, (lexer.lexLine before state).1.getLast? = some token → token.kind ≠ some .comment) :
    (lexer.lexLine (before ++ gap ++ after) state).1 =
      (lexer.lexLine before state).1 ++ ⟨none, gap, before.length, (before ++ gap).length⟩ ::
        (lexer.lexLine after .start).1.map (Token.shift (before ++ gap).length) := by
  obtain ⟨c, rest, rfl⟩ := List.exists_cons_of_ne_nil wide
  obtain ⟨first, others⟩ := List.forall_mem_cons.mp blank
  have run : (rest ++ after).takeWhile isBlank = rest := by
    rw [List.takeWhile_append_of_pos others]
    cases after with
    | nil => simp
    | cons d after => simp [resumes d rfl]
  have path := token_run_before_blank lexer before (rest ++ after) c last 0 _ _ _ first ends solid (Nat.zero_le _)
    (token_run_exists lexer before 0 state.clearPending) plain uncommented
  have parts : before ++ c :: rest ++ after = before ++ c :: (rest ++ after) := by simp
  have middle := next_token_blank lexer (before ++ c :: (rest ++ after)) before.length (lexer.lexLine before state).2 c
    (rest ++ after) List.drop_left first
  rw [run, ← List.length_cons, ← List.length_append] at middle
  have entered : ((lexer.lexLine before state).2.entering before.length).mode = .plain := by
    rw [entering_mode, plain]
  rw [parts, Lexer.lexLine, token_path_lex lexer _ 0 before.length _ _ _ path]
  dsimp only
  rw [← Lexer.lexLine, lex_from_step lexer _ before.length _ _ _ middle, ← parts]
  dsimp only
  rw [lex_from_shifted lexer (before ++ c :: rest) after _ entered]

theorem lex_line_local_at_blanks_inside_number :
    let lexer : Lexer := { vocabulary := Vocabulary.ofLists {} }
    let state : LexState := { mode := .inString '\'' }
    let before := " /*' 7".toList
    let gap := " \t".toList
    let after := ".5 //".toList
    (lexer.lexLine before state).2.mode = .plain ∧
      (lexer.lexLine before state).1.getLast? = some ⟨some .number, ['7'], 5, 6⟩ ∧
      ⟨some .number, "7.5".toList, 5, 8⟩ ∈ (lexer.lexLine (before ++ after) state).1 ∧
      (lexer.lexLine (before ++ gap ++ after) state).1 =
        (lexer.lexLine before state).1 ++ ⟨none, gap, 6, 8⟩ :: (lexer.lexLine after .start).1.map (Token.shift 8) ∧
      (lexer.lexLine after .start).1.map (Token.shift 8) =
        [⟨some .number, ".5".toList, 8, 10⟩, ⟨none, " ".toList, 10, 11⟩, ⟨some .comment, "//".toList, 11, 13⟩] := by
  intro lexer state before gap after
  have plain : (lexer.lexLine before state).2.mode = .plain := by
    unfold lexer state before
    cbv
  have number : (lexer.lexLine before state).1.getLast? = some ⟨some .number, ['7'], 5, 6⟩ := by
    unfold lexer state before
    cbv
  have joined : (lexer.lexLine (before ++ after) state).1 =
      [⟨none, " ".toList, 0, 1⟩, ⟨some .string, "/*'".toList, 1, 4⟩, ⟨none, " ".toList, 4, 5⟩,
        ⟨some .number, "7.5".toList, 5, 8⟩, ⟨none, " ".toList, 8, 9⟩, ⟨some .comment, "//".toList, 9, 11⟩] := by
    unfold lexer state before after
    cbv
  have cut := lex_line_local_at_blanks lexer state before gap after '7' rfl (by decide) (by decide)
    (List.forall_mem_cons.mpr ⟨by decide, List.forall_mem_singleton.mpr (by decide)⟩)
    (fun c first => by cases first; decide) plain
    (fun token last => by rw [number] at last; cases last; decide)
  refine ⟨plain, number, by rw [joined]; decide, cut, ?_⟩
  unfold lexer after
  cbv

end FilterAssist
