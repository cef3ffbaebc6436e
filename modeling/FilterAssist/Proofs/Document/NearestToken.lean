import Mathlib.Data.List.Permutation
import FilterAssist.Navigation
import FilterAssist.Proofs.Document.TokenLookup

set_option autoImplicit false

/-!
The walks from token to token find the nearest meaningful token in document order, and no other
token than a walk that looks at every character on the way.
-/
namespace FilterAssist

def Document.tokensBefore (document : Document) (line column : Nat) : List (Nat × Token) :=
  (List.range line).flatMap (fun above => (document.lineTokens above).map (Prod.mk above)) ++
    ((document.lineTokens line).filter fun token => decide (token.start < column)).map (Prod.mk line)

def Document.tokensAfter (document : Document) (line column : Nat) : List Token :=
  ((document.lineTokens line).filter fun token => decide (column < token.stop)) ++
    (document.lines.drop (line + 1)).flatMap DocumentLine.tokens

def lastMeaningful (placed : List (Nat × Token)) : Option (Nat × Token) :=
  (placed.filter fun entry => entry.2.isMeaningful).getLast?

def Document.characterWalkBackward (document : Document) (line column : Nat) : Option (Nat × Token) :=
  match column with
  | 0 =>
    match line with
    | 0 => none
    | above + 1 => document.characterWalkBackward above (document.lineLength above)
  | left + 1 =>
    match (document.tokenAt line (left + 1)).filter Token.isMeaningful with
    | some token => some (line, token)
    | none => document.characterWalkBackward line left
termination_by (line, column)

def Document.characterWalkForward (document : Document) (line column : Nat) : Option Token :=
  if column < document.lineLength line then
    match (document.tokenAt line (column + 1)).filter Token.isMeaningful with
    | some token => some token
    | none => document.characterWalkForward line (column + 1)
  else if line + 1 < document.lineCount then document.characterWalkForward (line + 1) 0
  else none
termination_by (document.lineCount - line, document.lineLength line - column)
decreasing_by
  · exact Prod.Lex.right _ (by omega)
  · exact Prod.Lex.left _ _ (by omega)

theorem last_meaningful_snoc (placed : List (Nat × Token)) (line : Nat) (token : Token) :
    lastMeaningful (placed ++ [(line, token)]) =
      if token.isMeaningful then some (line, token) else lastMeaningful placed := by
  rw [lastMeaningful, List.filter_append, List.filter_cons, List.filter_nil]
  by_cases meaningful : token.isMeaningful = true
  · rw [if_pos meaningful, if_pos meaningful]
    exact List.getLast?_concat
  · rw [if_neg meaningful, if_neg meaningful, List.append_nil, lastMeaningful]

theorem covers_filter_before (tokens earlier later : List Token) (token : Token) (column : Nat)
    (covers : Covers tokens earlier token later column) :
    (tokens.filter fun other => decide (other.start < column)) =
      (tokens.filter fun other => decide (other.start < token.start)) ++ [token] := by
  have starts := covers.starts
  have stops := covers.stops
  have kept (bound : Nat) (reached : token.start ≤ bound) :
      (earlier.filter fun other => decide (other.start < bound)) = earlier := by
    refine List.filter_eq_self.mpr (fun other member => ?_)
    have bounds := covers.left other member
    exact decide_eq_true (by omega)
  have dropped (bound : Nat) (unreached : bound ≤ token.stop) :
      (later.filter fun other => decide (other.start < bound)) = [] := by
    refine List.filter_eq_nil_iff.mpr (fun other member => ?_)
    have bounds := covers.right other member
    simp only [decide_eq_true_eq]
    omega
  rw [covers.parts]
  simp only [List.filter_append, List.filter_cons, decide_eq_true starts, Nat.lt_irrefl, decide_false,
    kept column (by omega), kept token.start (Nat.le_refl _), dropped column stops, dropped token.start (by omega)]
  simp

theorem covers_filter_after (tokens earlier later : List Token) (token : Token) (column : Nat)
    (covers : Covers tokens earlier token later (column + 1)) :
    (tokens.filter fun other => decide (column < other.stop)) =
      token :: (tokens.filter fun other => decide (token.stop < other.stop)) := by
  have starts := covers.starts
  have stops := covers.stops
  have dropped (bound : Nat) (reached : token.start ≤ bound) :
      (earlier.filter fun other => decide (bound < other.stop)) = [] := by
    refine List.filter_eq_nil_iff.mpr (fun other member => ?_)
    have bounds := covers.left other member
    simp only [decide_eq_true_eq]
    omega
  have kept (bound : Nat) (unreached : bound ≤ token.stop) :
      (later.filter fun other => decide (bound < other.stop)) = later := by
    refine List.filter_eq_self.mpr (fun other member => ?_)
    have bounds := covers.right other member
    exact decide_eq_true (by omega)
  have reaches : column < token.stop := stops
  rw [covers.parts]
  simp only [List.filter_append, List.filter_cons, decide_eq_true reaches, Nat.lt_irrefl, decide_false,
    dropped column (by omega), dropped token.stop (by omega), kept column (by omega), kept token.stop (Nat.le_refl _)]
  simp

theorem tokens_before_covered (document : Document) (line column : Nat) (earlier later : List Token) (token : Token)
    (covers : Covers (document.lineTokens line) earlier token later column) :
    document.tokensBefore line column = document.tokensBefore line token.start ++ [(line, token)] := by
  rw [Document.tokensBefore, Document.tokensBefore, covers_filter_before _ earlier later token column covers,
    List.map_append, List.append_assoc]
  rfl

theorem tokens_after_covered (document : Document) (line column : Nat) (earlier later : List Token) (token : Token)
    (covers : Covers (document.lineTokens line) earlier token later (column + 1)) :
    document.tokensAfter line column = token :: document.tokensAfter line token.stop := by
  rw [Document.tokensAfter, Document.tokensAfter, covers_filter_after _ earlier later token column covers]
  rfl

theorem tokens_before_parts (document : Document) (line column : Nat) (earlier later : List Token) (token : Token)
    (covers : Covers (document.lineTokens line) earlier token later column) :
    document.tokensBefore line token.start = document.tokensBefore line 0 ++ earlier.map (Prod.mk line) := by
  have kept : (earlier.filter fun other => decide (other.start < token.start)) = earlier := by
    refine List.filter_eq_self.mpr (fun other member => ?_)
    have bounds := covers.left other member
    exact decide_eq_true (by omega)
  have dropped : ((token :: later).filter fun other => decide (other.start < token.start)) = [] := by
    have starts := covers.starts
    have stops := covers.stops
    refine List.filter_eq_nil_iff.mpr (fun other member => ?_)
    rw [decide_eq_true_eq]
    rcases List.mem_cons.mp member with rfl | deeper
    · exact Nat.lt_irrefl _
    · have bounds := covers.right other deeper
      omega
  have none : ((document.lineTokens line).filter fun other => decide (other.start < 0)) = [] :=
    List.filter_eq_nil_iff.mpr (fun other _ => by simp)
  rw [Document.tokensBefore, Document.tokensBefore, none, covers.parts, List.filter_append, kept, dropped,
    List.append_nil, List.map_nil, List.append_nil]

theorem tokens_before_row (document : Document) (line : Nat) :
    document.tokensBefore (line + 1) 0 =
      document.tokensBefore line 0 ++ (document.lineTokens line).map (Prod.mk line) := by
  simp [Document.tokensBefore, List.range_succ]

theorem tokens_before_same_above (one two : Document) (line : Nat)
    (same : ∀ above, above < line → one.lineTokens above = two.lineTokens above) :
    one.tokensBefore line 0 = two.tokensBefore line 0 := by
  induction line with
  | zero => simp [Document.tokensBefore]
  | succ line ih =>
      rw [tokens_before_row, tokens_before_row, ih (fun above higher => same above (Nat.lt_succ_of_lt higher)),
        same line (Nat.lt_succ_self line)]

theorem tokens_before_origin (document : Document) : document.tokensBefore 0 0 = [] := by
  simp [Document.tokensBefore]

theorem tokens_before_clipped (document : Document) (line column : Nat) (tiled : document.Tiled) :
    document.tokensBefore line (min column (document.lineLength line)) = document.tokensBefore line column := by
  rw [Document.tokensBefore, Document.tokensBefore]
  congr 2
  refine List.filter_congr (fun token member => ?_)
  have bounds := tiled_tokens_within document line tiled token member
  exact decide_eq_decide.mpr (by omega)

theorem tokens_before_wrap (document : Document) (above : Nat) (tiled : document.Tiled) :
    document.tokensBefore (above + 1) 0 = document.tokensBefore above (document.lineLength above) := by
  have whole : ((document.lineTokens above).filter fun token => decide (token.start < document.lineLength above)) =
      document.lineTokens above := by
    refine List.filter_eq_self.mpr (fun token member => ?_)
    have bounds := tiled_tokens_within document above tiled token member
    exact decide_eq_true (by omega)
  rw [Document.tokensBefore, Document.tokensBefore, whole, List.range_succ, List.flatMap_append]
  simp

theorem tokens_after_line_end (document : Document) (line column : Nat) (tiled : document.Tiled)
    (past : document.lineLength line ≤ column) :
    document.tokensAfter line column = (document.lines.drop (line + 1)).flatMap DocumentLine.tokens := by
  have none : ((document.lineTokens line).filter fun token => decide (column < token.stop)) = [] := by
    refine List.filter_eq_nil_iff.mpr (fun token member => ?_)
    have bounds := tiled_tokens_within document line tiled token member
    simp only [decide_eq_true_eq]
    omega
  rw [Document.tokensAfter, none, List.nil_append]

theorem tokens_after_wrap (document : Document) (line column : Nat) (tiled : document.Tiled)
    (past : document.lineLength line ≤ column) (below : line + 1 < document.lineCount) :
    document.tokensAfter line column = document.tokensAfter (line + 1) 0 := by
  have whole : ((document.lineTokens (line + 1)).filter fun token => decide (0 < token.stop)) =
      document.lineTokens (line + 1) := by
    refine List.filter_eq_self.mpr (fun token member => ?_)
    have bounds := tiled_tokens_within document (line + 1) tiled token member
    exact decide_eq_true (by omega)
  have next : document.lineTokens (line + 1) = (document.lines.get ⟨line + 1, below⟩).tokens := by
    rw [Document.lineTokens, List.getElem?_eq_getElem below]
    rfl
  rw [tokens_after_line_end document line column tiled past, Document.tokensAfter, whole, next,
    List.drop_eq_getElem_cons below, List.flatMap_cons]
  rfl

theorem tokens_after_document_end (document : Document) (line column : Nat) (tiled : document.Tiled)
    (past : document.lineLength line ≤ column) (last : ¬ line + 1 < document.lineCount) :
    document.tokensAfter line column = [] := by
  rw [tokens_after_line_end document line column tiled past, List.drop_eq_nil_of_le (Nat.le_of_not_lt last)]
  rfl

theorem walk_backward_nearest (document : Document) (line column : Nat) (tiled : document.Tiled)
    (inside : column ≤ document.lineLength line) :
    document.walkBackward line column = lastMeaningful (document.tokensBefore line column) := by
  cases column with
  | zero =>
      cases line with
      | zero =>
          rw [Document.walkBackward, tokens_before_origin]
          rfl
      | succ above =>
          rw [Document.walkBackward, tokens_before_wrap document above tiled]
          exact walk_backward_nearest document above _ tiled (Nat.le_refl _)
  | succ left =>
      obtain ⟨earlier, token, later, covers, found⟩ :=
        token_at_covers document line (left + 1) tiled (Nat.succ_pos left) inside
      have back : token.start ≤ left := Nat.le_of_lt_succ covers.starts
      have shorter : token.start ≤ document.lineLength line := by omega
      rw [Document.walkBackward, found, tokens_before_covered document line (left + 1) earlier later token covers,
        last_meaningful_snoc]
      dsimp only
      rw [Nat.min_eq_left back, walk_backward_nearest document line token.start tiled shorter]
termination_by (line, column)

theorem previous_token_nearest (document : Document) (line column : Nat) (tiled : document.Tiled)
    (inside : line < document.lineCount) :
    document.previousToken line column = (lastMeaningful (document.tokensBefore line column)).map Prod.snd := by
  rw [Document.previousToken, Document.previousTokenWithLine, if_pos inside,
    walk_backward_nearest document line _ tiled (Nat.min_le_right _ _), tokens_before_clipped document line column tiled]

theorem walk_forward_nearest (document : Document) (line column : Nat) (tiled : document.Tiled) :
    document.walkForward line column = (document.tokensAfter line column).find? Token.isMeaningful := by
  rw [Document.walkForward]
  by_cases inside : column < document.lineLength line
  · obtain ⟨earlier, token, later, covers, found⟩ :=
      token_at_covers document line (column + 1) tiled (Nat.succ_pos column) inside
    have ahead : column + 1 ≤ token.stop := covers.stops
    rw [if_pos inside, found, tokens_after_covered document line column earlier later token covers, List.find?_cons]
    dsimp only
    rw [Nat.max_eq_left ahead, walk_forward_nearest document line token.stop tiled]
    cases token.isMeaningful <;> rfl
  · have past : document.lineLength line ≤ column := Nat.le_of_not_lt inside
    rw [if_neg inside]
    by_cases below : line + 1 < document.lineCount
    · rw [if_pos below, tokens_after_wrap document line column tiled past below]
      exact walk_forward_nearest document (line + 1) 0 tiled
    · rw [if_neg below, tokens_after_document_end document line column tiled past below]
      rfl
termination_by (document.lineCount - line, document.lineLength line - column)

theorem last_meaningful_left (document : Document) (line left : Nat) (earlier later : List Token) (token : Token)
    (covers : Covers (document.lineTokens line) earlier token later (left + 1)) :
    lastMeaningful (document.tokensBefore line (left + 1)) =
      if token.isMeaningful then some (line, token) else lastMeaningful (document.tokensBefore line left) := by
  rw [tokens_before_covered document line (left + 1) earlier later token covers, last_meaningful_snoc]
  by_cases meaningful : token.isMeaningful = true
  · rw [if_pos meaningful, if_pos meaningful]
  · rw [if_neg meaningful, if_neg meaningful]
    have starts := covers.starts
    have stops := covers.stops
    by_cases first : token.start = left
    · rw [first]
    · have still : Covers (document.lineTokens line) earlier token later left :=
        ⟨covers.parts, by omega, by omega, covers.left, covers.right⟩
      rw [tokens_before_covered document line left earlier later token still, last_meaningful_snoc, if_neg meaningful]

theorem first_meaningful_right (document : Document) (line column : Nat) (earlier later : List Token) (token : Token)
    (covers : Covers (document.lineTokens line) earlier token later (column + 1)) :
    (document.tokensAfter line column).find? Token.isMeaningful =
      if token.isMeaningful then some token
      else (document.tokensAfter line (column + 1)).find? Token.isMeaningful := by
  rw [tokens_after_covered document line column earlier later token covers, List.find?_cons]
  cases meaningful : token.isMeaningful with
  | true => rfl
  | false =>
      have starts := covers.starts
      have stops := covers.stops
      rw [if_neg Bool.false_ne_true]
      by_cases last : token.stop = column + 1
      · rw [last]
      · have still : Covers (document.lineTokens line) earlier token later (column + 1 + 1) :=
          ⟨covers.parts, by omega, by omega, covers.left, covers.right⟩
        rw [tokens_after_covered document line (column + 1) earlier later token still, List.find?_cons, meaningful]

theorem character_walk_backward_nearest (document : Document) (line column : Nat) (tiled : document.Tiled)
    (inside : column ≤ document.lineLength line) :
    document.characterWalkBackward line column = lastMeaningful (document.tokensBefore line column) := by
  cases column with
  | zero =>
      cases line with
      | zero =>
          rw [Document.characterWalkBackward, tokens_before_origin]
          rfl
      | succ above =>
          rw [Document.characterWalkBackward, tokens_before_wrap document above tiled]
          exact character_walk_backward_nearest document above _ tiled (Nat.le_refl _)
  | succ left =>
      obtain ⟨earlier, token, later, covers, found⟩ :=
        token_at_covers document line (left + 1) tiled (Nat.succ_pos left) inside
      rw [Document.characterWalkBackward, found, Option.filter_some,
        last_meaningful_left document line left earlier later token covers]
      by_cases meaningful : token.isMeaningful = true
      · rw [if_pos meaningful, if_pos meaningful]
      · rw [if_neg meaningful, if_neg meaningful]
        exact character_walk_backward_nearest document line left tiled (Nat.le_of_succ_le inside)
termination_by (line, column)

theorem character_walk_forward_nearest (document : Document) (line column : Nat) (tiled : document.Tiled) :
    document.characterWalkForward line column = (document.tokensAfter line column).find? Token.isMeaningful := by
  rw [Document.characterWalkForward]
  by_cases inside : column < document.lineLength line
  · obtain ⟨earlier, token, later, covers, found⟩ :=
      token_at_covers document line (column + 1) tiled (Nat.succ_pos column) inside
    rw [if_pos inside, found, Option.filter_some, first_meaningful_right document line column earlier later token covers]
    by_cases meaningful : token.isMeaningful = true
    · rw [if_pos meaningful, if_pos meaningful]
    · rw [if_neg meaningful, if_neg meaningful]
      exact character_walk_forward_nearest document line (column + 1) tiled
  · have past : document.lineLength line ≤ column := Nat.le_of_not_lt inside
    rw [if_neg inside]
    by_cases below : line + 1 < document.lineCount
    · rw [if_pos below, tokens_after_wrap document line column tiled past below]
      exact character_walk_forward_nearest document (line + 1) 0 tiled
    · rw [if_neg below, tokens_after_document_end document line column tiled past below]
      rfl
termination_by (document.lineCount - line, document.lineLength line - column)

theorem adjacent_tokens_nearest (lexer : Lexer) (text : Text) (edits : List Edit) (line column : Nat)
    (inside : line < ((Buffer.ofText lexer text).editAll edits).document.lineCount) :
    let document := ((Buffer.ofText lexer text).editAll edits).document
    let previous := ((document.tokensBefore line column).filter fun placed => placed.2.isMeaningful).getLast?
    let next := (document.tokensAfter line column).find? Token.isMeaningful
    document.previousTokenWithLine line column = previous ∧
      document.previousToken line column = previous.map Prod.snd ∧
      document.nextToken line column = next ∧
      document.characterWalkBackward line (min column (document.lineLength line)) = previous ∧
      document.characterWalkForward line column = next := by
  intro document previous next
  have tiled : document.Tiled := fresh_document_tiled _ (edit_all_fresh _ edits (of_text_fresh lexer text))
  have clipped := tokens_before_clipped document line column tiled
  have backward : document.previousTokenWithLine line column = previous := by
    rw [Document.previousTokenWithLine, if_pos inside,
      walk_backward_nearest document line _ tiled (Nat.min_le_right _ _), clipped]
    rfl
  refine ⟨backward, ?_, ?_, ?_, ?_⟩
  · rw [Document.previousToken, backward]
  · rw [Document.nextToken, if_pos inside]
    exact walk_forward_nearest document line column tiled
  · rw [character_walk_backward_nearest document line _ tiled (Nat.min_le_right _ _), clipped]
    rfl
  · exact character_walk_forward_nearest document line column tiled

theorem adjacent_tokens_nearest_around_comment :
    let lexer : Lexer := { vocabulary := Vocabulary.ofLists {} }
    let edits : List Edit := [.setLine 1 [], .replaceLines ⟨2, 2⟩ ["/* c".toList, "*/ 'd'".toList]]
    let document := ((Buffer.ofText lexer "'a' // b".toList).editAll edits).document
    2 < document.lineCount ∧
      document.previousTokenWithLine 2 3 = some (0, ⟨some .string, "'a'".toList, 0, 3⟩) ∧
      document.characterWalkBackward 2 (min 3 (document.lineLength 2)) =
        some (0, ⟨some .string, "'a'".toList, 0, 3⟩) ∧
      document.nextToken 2 3 = some ⟨some .string, "'d'".toList, 3, 6⟩ ∧
      document.characterWalkForward 2 3 = some ⟨some .string, "'d'".toList, 3, 6⟩ := by
  intro lexer edits document
  have inside : 2 < document.lineCount := by cbv
  obtain ⟨backward, _, forward, characterBackward, characterForward⟩ :=
    adjacent_tokens_nearest lexer "'a' // b".toList edits 2 3 inside
  exact ⟨inside, backward.trans (by cbv), characterBackward.trans (by cbv), forward.trans (by cbv),
    characterForward.trans (by cbv)⟩

end FilterAssist
