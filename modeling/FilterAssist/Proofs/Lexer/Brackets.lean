import Mathlib
import FilterAssist.Proofs.Lexer.Lines
import FilterAssist.Proofs.Lexer.Strings

set_option autoImplicit false

/-!
Open brackets. The characters that would close them form the stack of a plain bracket matcher that sees
nothing of a text but its bracket tokens. A frame that is not closed keeps all it holds: only the frame
that was opened last, on the same line, can still be aligned.
-/
namespace FilterAssist

def LexState.closings (state : LexState) : List Char :=
  state.frames.map Frame.closing

def bracketStep (stack : List Char) (token : Token) : List Char :=
  match token.kind, token.text with
  | some .openBracket, ['('] => ')' :: stack
  | some .openBracket, ['{'] => '}' :: stack
  | some .closeBracket, [c] => if stack.head? = some c then stack.tail else stack
  | _, _ => stack

def bracketStack (stack : List Char) (tokens : List Token) : List Char :=
  tokens.foldl bracketStep stack

def Token.IsBracket (token : Token) : Prop :=
  token.kind = some .openBracket ∨ token.kind = some .closeBracket

structure Token.Pairs (opening closing : Token) : Prop where
  opens : opening.kind = some .openBracket
  closes : closing.kind = some .closeBracket
  matching : (opening.text = ['('] ∧ closing.text = [')']) ∨ (opening.text = ['{'] ∧ closing.text = ['}'])

inductive WellNested : List Token → Prop
  | nil : WellNested []
  | skip (token : Token) (tokens : List Token) (other : ¬ token.IsBracket) (rest : WellNested tokens) :
      WellNested (token :: tokens)
  | pair (opening closing : Token) (inner tokens : List Token) (pairs : opening.Pairs closing)
      (inside : WellNested inner) (rest : WellNested tokens) : WellNested (opening :: (inner ++ closing :: tokens))

theorem bracket_step_other (stack : List Char) (token : Token) (other : ¬ token.IsBracket) :
    bracketStep stack token = stack := by
  unfold bracketStep
  split
  · rename_i kind _
    exact absurd (.inl kind) other
  · rename_i kind _
    exact absurd (.inl kind) other
  · rename_i kind _
    exact absurd (.inr kind) other
  · rfl

theorem bracket_step_pair (stack : List Char) (opening closing : Token) (pairs : opening.Pairs closing) :
    ∃ c, bracketStep stack opening = c :: stack ∧ bracketStep (c :: stack) closing = stack := by
  rcases pairs.matching with ⟨round, unround⟩ | ⟨curly, uncurly⟩
  · exact ⟨')', by simp [bracketStep, pairs.opens, round], by simp [bracketStep, pairs.closes, unround]⟩
  · exact ⟨'}', by simp [bracketStep, pairs.opens, curly], by simp [bracketStep, pairs.closes, uncurly]⟩

theorem bracket_stack_append (stack : List Char) (earlier later : List Token) :
    bracketStack stack (earlier ++ later) = bracketStack (bracketStack stack earlier) later :=
  List.foldl_append

theorem well_nested_stack (tokens : List Token) (nested : WellNested tokens) (stack : List Char) :
    bracketStack stack tokens = stack := by
  induction nested generalizing stack with
  | nil => rfl
  | skip token tokens other _ ih =>
      rw [bracketStack, List.foldl_cons, bracket_step_other stack token other]
      exact ih stack
  | pair opening closing inner tokens pairs _ _ inside rest =>
      obtain ⟨c, pushed, popped⟩ := bracket_step_pair stack opening closing pairs
      rw [bracketStack, List.foldl_cons, pushed, ← bracketStack, bracket_stack_append, inside, bracketStack,
        List.foldl_cons, popped]
      exact rest stack

theorem well_nested_above (tokens : List Token) (nested : WellNested tokens) (stack : List Char)
    (earlier later : List Token) (split : tokens = earlier ++ later) :
    stack.length ≤ (bracketStack stack earlier).length := by
  induction nested generalizing stack earlier later with
  | nil =>
      rw [List.append_eq_nil_iff.mp split.symm |>.1]
      exact Nat.le_refl _
  | skip token tokens other _ ih =>
      cases earlier with
      | nil => exact Nat.le_refl _
      | cons head earlier =>
          obtain ⟨rfl, rest⟩ := List.cons.inj split
          rw [bracketStack, List.foldl_cons, bracket_step_other stack token other]
          exact ih stack earlier later rest
  | pair opening closing inner tokens pairs insideNested _ inside rest =>
      cases earlier with
      | nil => exact Nat.le_refl _
      | cons head earlier =>
          obtain ⟨rfl, parts⟩ := List.cons.inj split
          obtain ⟨c, pushed, popped⟩ := bracket_step_pair stack opening closing pairs
          rw [bracketStack, List.foldl_cons, pushed]
          rcases List.append_eq_append_iff.mp parts with ⟨more, rfl, closed⟩ | ⟨more, rfl, _⟩
          · cases more with
            | nil =>
                have deeper := inside (c :: stack) inner [] (List.append_nil inner).symm
                rw [List.append_nil]
                exact Nat.le_of_succ_le deeper
            | cons last more =>
                obtain ⟨rfl, remaining⟩ := List.cons.inj closed
                rw [← bracketStack, bracket_stack_append, well_nested_stack inner insideNested, bracketStack,
                  List.foldl_cons, popped]
                exact rest stack more later remaining
          · exact Nat.le_of_succ_le (inside (c :: stack) earlier more rfl)

theorem closing_of_some (token : Token) (c : Char) (closing : closingOf token = some c) :
    token.kind = some .openBracket ∧ ((token.text = ['('] ∧ c = ')') ∨ (token.text = ['{'] ∧ c = '}')) := by
  unfold closingOf at closing
  split at closing
  · rename_i opens
    refine ⟨opens, ?_⟩
    split at closing
    · rename_i text
      exact .inl ⟨text, (Option.some.inj closing).symm⟩
    · rename_i text
      exact .inr ⟨text, (Option.some.inj closing).symm⟩
    · cases closing
  · cases closing

theorem track_cases (lexer : Lexer) (line : Text) (token : Token) (state : LexState) :
    (token.kind = some .comment ∧ lexer.track line token state = state) ∨
      (∃ frame, closingOf token = some frame.closing ∧ frame.aligned = false ∧
        frame.parentIndent = indentation lexer.layout.tabWord line ∧
        frame.column = wordColumn lexer.layout.tabWord line token.start ∧
        lexer.track line token state = { state with frames := frame :: state.frames, pendingAlign := true }) ∨
      (∃ c rest, token.kind = some .closeBracket ∧ token.text = c :: rest ∧
        lexer.track line token state = (state.settleAlign lexer.layout.alignBrackets).close c) ∨
      (closingOf token = none ∧ (token.kind = some .closeBracket → token.text = []) ∧
        lexer.track line token state = state.settleAlign lexer.layout.alignBrackets) := by
  by_cases comment : token.kind = some .comment
  · exact .inl ⟨comment, if_pos comment⟩
  rw [Lexer.track, if_neg comment]
  cases closing : closingOf token with
  | some c => exact .inr (.inl ⟨⟨_, _, c, false⟩, rfl, rfl, rfl, rfl, rfl⟩)
  | none =>
      dsimp only
      split
      · rename_i c rest closes text
        exact .inr (.inr (.inl ⟨c, rest, closes, text, rfl⟩))
      · rename_i other
        refine .inr (.inr (.inr ⟨rfl, fun closes => ?_, rfl⟩))
        cases text : token.text with
        | nil => rfl
        | cons c rest => exact absurd text (other c rest closes)

theorem settle_align_closings (state : LexState) (alignBrackets : Bool) :
    (state.settleAlign alignBrackets).closings = state.closings := by
  unfold LexState.settleAlign
  split
  · unfold LexState.closings
    dsimp only
    split
    · rename_i frame outer shape
      rw [shape]
      rfl
    · rfl
  · rfl

theorem close_closings (state : LexState) (c : Char) :
    (state.close c).closings = if state.closings.head? = some c then state.closings.tail else state.closings := by
  unfold LexState.close LexState.closings
  split
  · rename_i frame outer shape
    rw [shape]
    by_cases closes : frame.closing = c
    · simp [closes]
    · simp [closes, shape]
  · rename_i shape
    simp [shape]

theorem scan_closing_bracket (vocabulary : Vocabulary) (mode : LexMode) (c : Char) (rest : Text)
    (closes : (scan vocabulary mode c rest).kind = some .closeBracket) :
    (c = ')' ∨ c = '}') ∧ (scan vocabulary mode c rest).length = 1 := by
  cases mode with
  | plain =>
      have word : (scanWord vocabulary c rest).kind ≠ some .closeBracket := by
        intro found
        obtain ⟨category, same⟩ := scan_word_category vocabulary c rest .closeBracket found
        cases category <;> cases same
      simp only [scan, scanPlain] at closes ⊢
      repeat' split at closes
      all_goals simp_all
  | inString quote => cases closes
  | inComment => cases closes

theorem bracket_step_opening (stack : List Char) (token : Token) (c : Char) (closing : closingOf token = some c) :
    bracketStep stack token = c :: stack := by
  obtain ⟨opens, ⟨text, rfl⟩ | ⟨text, rfl⟩⟩ := closing_of_some token c closing <;> simp [bracketStep, opens, text]

theorem track_closings (lexer : Lexer) (line : Text) (token : Token) (state : LexState)
    (single : token.kind = some .closeBracket → token.text.length = 1) :
    (lexer.track line token state).closings = bracketStep state.closings token := by
  rcases track_cases lexer line token state with
    ⟨comment, same⟩ | ⟨frame, closing, _, _, _, pushed⟩ | ⟨c, rest, closes, text, closed⟩ | ⟨unopened, unclosed, settled⟩
  · rw [same, bracket_step_other _ token (by simp [Token.IsBracket, comment])]
  · rw [pushed, bracket_step_opening _ token _ closing]
    rfl
  · obtain ⟨only, alone⟩ := List.length_eq_one_iff.mp (single closes)
    obtain ⟨rfl, _⟩ := List.cons.inj (text.symm.trans alone)
    rw [closed, close_closings, settle_align_closings]
    simp only [bracketStep, closes, alone]
  · rw [settled, settle_align_closings]
    unfold bracketStep
    split
    · rename_i opens text
      simp [closingOf, opens, text] at unopened
    · rename_i opens text
      simp [closingOf, opens, text] at unopened
    · rename_i c closes text
      rw [unclosed closes] at text
      cases text
    · rfl

theorem next_token_closings (lexer : Lexer) (line : Text) (column : Nat) (state after : LexState) (token : Token)
    (found : lexer.nextToken line column state = some (token, after)) :
    after.closings = bracketStep state.closings token := by
  have entered : (state.entering column).closings = state.closings := by
    unfold LexState.entering
    split <;> rfl
  obtain ⟨c, rest, _, step⟩ := next_token_cases lexer line column state after token found
  rcases step with ⟨_, rfl, rfl⟩ | ⟨lexeme, _, scanned, rfl, rfl⟩
  · exact entered
  · rw [track_closings]
    · exact congrArg (bracketStep · _) entered
    · intro closes
      rw [scanned] at closes ⊢
      rw [(scan_closing_bracket lexer.vocabulary state.mode c rest closes).2]
      rfl

theorem token_steps_closings (lexer : Lexer) (state reached : LexState) (tokens : List Token)
    (steps : TokenSteps lexer state tokens reached) : reached.closings = bracketStack state.closings tokens := by
  induction steps with
  | done state => rfl
  | newLine state reached tokens _ ih => exact ih
  | token line column state after reached token tokens found _ ih =>
      rw [ih, next_token_closings lexer line column state after token found]
      rfl

theorem closings_length (state : LexState) : state.closings.length = state.depth :=
  List.length_map _

-- The frames at the bottom are `base`, and the frame that waits for its alignment is not among them.
structure LexState.Keeps (state : LexState) (base : List Frame) : Prop where
  below : base <:+ state.frames
  waiting : state.pendingAlign = true → base.length < state.depth

theorem clear_pending_keeps (state : LexState) (base : List Frame) (below : base <:+ state.frames) :
    state.clearPending.Keeps base :=
  ⟨below, fun pending => absurd pending Bool.false_ne_true⟩

theorem entering_keeps (state : LexState) (base : List Frame) (column : Nat) (keeps : state.Keeps base) :
    (state.entering column).Keeps base := by
  unfold LexState.entering
  split
  · exact clear_pending_keeps state base keeps.below
  · exact keeps

theorem suffix_tail (frame : Frame) (outer base : List Frame) (below : base <:+ frame :: outer)
    (short : base.length ≤ outer.length) : base <:+ outer := by
  rcases List.suffix_cons_iff.mp below with rfl | deeper
  · exact absurd short (Nat.not_succ_le_self _)
  · exact deeper

theorem settle_align_keeps (state : LexState) (base : List Frame) (alignBrackets : Bool) (keeps : state.Keeps base) :
    base <:+ (state.settleAlign alignBrackets).frames ∧ (state.settleAlign alignBrackets).pendingAlign = false := by
  unfold LexState.settleAlign
  split
  · rename_i pending
    refine ⟨?_, rfl⟩
    dsimp only
    split
    · rename_i frame outer shape
      have short := keeps.waiting pending
      have below := keeps.below
      rw [LexState.depth, shape, List.length_cons] at short
      rw [shape] at below
      exact (suffix_tail frame outer base below (Nat.le_of_lt_succ short)).trans (List.suffix_cons _ outer)
    · exact keeps.below
  · rename_i settled
    exact ⟨keeps.below, by simpa using settled⟩

theorem close_keeps (state : LexState) (base : List Frame) (c : Char) (below : base <:+ state.frames)
    (deep : base.length ≤ (state.close c).depth) : base <:+ (state.close c).frames := by
  unfold LexState.close at deep ⊢
  split
  · rename_i frame outer shape
    rw [shape] at below deep
    dsimp only at deep
    split
    · rename_i closes
      rw [if_pos closes] at deep
      exact suffix_tail frame outer base below deep
    · rw [shape]
      exact below
  · exact below

theorem close_pending (state : LexState) (c : Char) : (state.close c).pendingAlign = state.pendingAlign := by
  unfold LexState.close
  split
  · split <;> rfl
  · rfl

theorem track_keeps (lexer : Lexer) (line : Text) (token : Token) (state : LexState) (base : List Frame)
    (keeps : state.Keeps base) (deep : base.length ≤ (lexer.track line token state).depth) :
    (lexer.track line token state).Keeps base := by
  rcases track_cases lexer line token state with
    ⟨_, same⟩ | ⟨frame, _, _, _, _, pushed⟩ | ⟨c, _, _, _, closed⟩ | ⟨_, _, settled⟩
  · rw [same]
    exact keeps
  · rw [pushed]
    exact ⟨keeps.below.trans (List.suffix_cons frame _), fun _ => Nat.lt_succ_of_le keeps.below.length_le⟩
  · obtain ⟨below, settled⟩ := settle_align_keeps state base lexer.layout.alignBrackets keeps
    rw [closed] at deep ⊢
    refine ⟨close_keeps _ base c below deep, fun pending => ?_⟩
    rw [close_pending, settled] at pending
    cases pending
  · obtain ⟨below, unset⟩ := settle_align_keeps state base lexer.layout.alignBrackets keeps
    rw [settled]
    refine ⟨below, fun pending => ?_⟩
    rw [unset] at pending
    cases pending

theorem next_token_keeps (lexer : Lexer) (line : Text) (column : Nat) (state after : LexState) (token : Token)
    (base : List Frame) (found : lexer.nextToken line column state = some (token, after)) (keeps : state.Keeps base)
    (deep : base.length ≤ after.depth) : after.Keeps base := by
  have entered := entering_keeps state base column keeps
  obtain ⟨c, rest, _, step⟩ := next_token_cases lexer line column state after token found
  rcases step with ⟨_, rfl, rfl⟩ | ⟨lexeme, _, scanned, rfl, rfl⟩
  · exact entered
  · exact track_keeps lexer line _ _ base ⟨entered.below, entered.waiting⟩ deep

theorem token_steps_keep (lexer : Lexer) (state reached : LexState) (tokens : List Token) (base : List Frame)
    (steps : TokenSteps lexer state tokens reached) (keeps : state.Keeps base)
    (above : ∀ earlier later, tokens = earlier ++ later → base.length ≤ (bracketStack state.closings earlier).length) :
    reached.Keeps base := by
  induction steps with
  | done state => exact keeps
  | newLine state reached tokens _ ih => exact ih (clear_pending_keeps state base keeps.below) above
  | token line column state after reached token tokens found _ ih =>
      have closings := next_token_closings lexer line column state after token found
      have later (earlier later : List Token) (split : tokens = earlier ++ later) :
          base.length ≤ (bracketStack after.closings earlier).length := by
        rw [closings]
        exact above (token :: earlier) later (congrArg (List.cons token) split)
      have deep : base.length ≤ after.depth := by
        rw [← closings_length]
        exact later [] tokens rfl
      exact ih (next_token_keeps lexer line column state after token base found keeps deep) later

theorem line_keeps_frames (lexer : Lexer) (line : Text) (state : LexState) (base : List Frame)
    (below : base <:+ state.frames)
    (lowest : ∀ reached, lexer.Visits line state reached → base.length ≤ reached.depth) (reached : LexState)
    (visited : lexer.Visits line state reached) : base <:+ reached.frames := by
  obtain ⟨tokens, stop, path⟩ := visited
  have steps := token_path_steps lexer line 0 stop _ _ _ path
  refine (token_steps_keep lexer _ reached tokens base steps (clear_pending_keeps state base below) ?_).below
  rintro earlier later rfl
  obtain ⟨place, middle, walked⟩ := token_path_split lexer line 0 stop _ reached earlier later path
  rw [← token_steps_closings lexer _ middle earlier (token_path_steps lexer line 0 place _ _ _ walked), closings_length]
  exact lowest middle ⟨earlier, place, walked⟩

theorem lex_lines_settled (lexer : Lexer) (line : Text) (lines : List Text) (state : LexState) :
    lexer.lexLines (line :: lines) state = lexer.lexLines (line :: lines) state.clearPending :=
  rfl

theorem well_nested_frames (lexer : Lexer) (state reached : LexState) (tokens : List Token)
    (steps : TokenSteps lexer state tokens reached) (settled : state.pendingAlign = false) (nested : WellNested tokens) :
    reached.frames = state.frames := by
  have keeps : state.Keeps state.frames :=
    ⟨List.suffix_refl _, fun pending => absurd (settled.symm.trans pending) Bool.false_ne_true⟩
  have kept := token_steps_keep lexer state reached tokens state.frames steps keeps (fun earlier later split => by
    rw [← LexState.depth, ← closings_length]
    exact well_nested_above tokens nested state.closings earlier later split)
  have same : reached.closings = state.closings := by
    rw [token_steps_closings lexer state reached tokens steps, well_nested_stack tokens nested]
  have length : state.frames.length = reached.frames.length := by
    rw [← LexState.depth, ← LexState.depth, ← closings_length, ← closings_length, same]
  exact (kept.below.eq_of_length length).symm

theorem bracket_frames_follow_tokens (lexer : Lexer) (state : LexState) (lines : List Text) :
    let lexed := lexer.lexLines lines state
    lexed.2.closings = bracketStack state.closings lexed.1.flatten ∧
      (∀ line base, base <:+ state.frames →
        (∀ reached, lexer.Visits line state reached → base.length ≤ reached.depth) →
          base <:+ (lexer.lexLine line state).2.frames ∧
            ∀ reached, lexer.Visits line state reached → base <:+ reached.frames) ∧
      (WellNested lexed.1.flatten → lexed.2.frames = state.frames) := by
  intro lexed
  refine ⟨token_steps_closings lexer state _ _ (lex_lines_steps lexer lines state), ?_, ?_⟩
  · intro line base below lowest
    have kept := line_keeps_frames lexer line state base below lowest
    exact ⟨kept _ (lex_line_visited lexer line state), kept⟩
  · intro nested
    cases lines with
    | nil => rfl
    | cons line lines =>
        have steps := lex_lines_steps lexer (line :: lines) state.clearPending
        rw [← lex_lines_settled] at steps
        exact well_nested_frames lexer state.clearPending _ _ steps rfl nested

theorem bracket_frames_follow_tokens_around_string :
    let lexer : Lexer := { vocabulary := Vocabulary.ofLists {}, layout := { alignBrackets := true } }
    let state : LexState := { frames := [⟨0, 0, ')', false⟩], pendingAlign := true }
    let lines := ["'\x7d' \x7b".toList, "\x7d // )".toList]
    (WellNested (lexer.lexLines lines state).1.flatten ∧
        ∀ reached, lexer.Visits "'\x7d' \x7b".toList state reached → 1 ≤ reached.depth) ∧
      (lexer.lexLines lines state).2.frames = state.frames ∧
      state.frames <:+ (lexer.lexLine "'\x7d' \x7b".toList state).2.frames := by
  intro lexer state lines
  obtain ⟨_, line, restored⟩ := bracket_frames_follow_tokens lexer state lines
  have first : (lexer.lexLine "'\x7d' \x7b".toList state).1 =
      [⟨some .string, "'\x7d'".toList, 0, 3⟩, ⟨none, [' '], 3, 4⟩, ⟨some .openBracket, ['{'], 4, 5⟩] := by
    unfold lexer state
    cbv
  have tokens : (lexer.lexLines lines state).1.flatten =
      [⟨some .string, "'\x7d'".toList, 0, 3⟩, ⟨none, [' '], 3, 4⟩, ⟨some .openBracket, ['{'], 4, 5⟩,
        ⟨some .closeBracket, ['}'], 0, 1⟩, ⟨none, [' '], 1, 2⟩, ⟨some .comment, "// )".toList, 2, 6⟩] := by
    unfold lexer state lines
    cbv
  have nested : WellNested (lexer.lexLines lines state).1.flatten := by
    rw [tokens]
    refine .skip _ _ (by simp [Token.IsBracket]) (.skip _ _ (by simp [Token.IsBracket]) ?_)
    refine .pair _ _ [] _ ⟨rfl, rfl, .inr ⟨rfl, rfl⟩⟩ .nil ?_
    exact .skip _ _ (by simp [Token.IsBracket]) (.skip _ _ (by simp [Token.IsBracket]) .nil)
  have lowest : ∀ reached, lexer.Visits "'\x7d' \x7b".toList state reached → 1 ≤ reached.depth := by
    rintro reached ⟨walked, stop, path⟩
    have front : walked ∈ (lexer.lexLine "'\x7d' \x7b".toList state).1.inits := by
      rw [List.mem_inits, Lexer.lexLine, token_path_lex lexer _ 0 stop _ reached walked path]
      exact List.prefix_append walked _
    have every : ∀ walked ∈ (lexer.lexLine "'\x7d' \x7b".toList state).1.inits,
        1 ≤ (bracketStack state.clearPending.closings walked).length := by
      rw [first]
      decide
    rw [← closings_length, token_steps_closings lexer _ reached walked (token_path_steps lexer _ 0 stop _ _ _ path)]
    exact every walked front
  exact ⟨⟨nested, lowest⟩, restored nested, (line _ state.frames (List.suffix_refl _) lowest).1⟩

end FilterAssist
