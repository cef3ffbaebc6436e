import FilterAssist.Proofs.Buffer.RelexedRange
import FilterAssist.Proofs.Completion.ReplacedText
import FilterAssist.Proofs.Lexer.OpenLines

set_option autoImplicit false

/-!
Completion inside a string or comment that was opened on an earlier line. Nothing is offered once a
character that is not blank stands before the cursor; on the blanks at the front of the line, and at its
very start, the cursor is taken to complete an empty word.
-/
namespace FilterAssist

theorem all_blank_take_iff (text : Text) (count : Nat) :
    Text.allBlank (text.take count) = true ↔ min count text.length ≤ (text.takeWhile isBlank).length := by
  induction text generalizing count with
  | nil => simp [Text.allBlank]
  | cons c rest ih =>
      cases count with
      | zero => simp [Text.allBlank]
      | succ count =>
          rw [List.take_succ_cons, List.takeWhile_cons, List.length_cons, Nat.add_min_add_right]
          by_cases blank : isBlank c = true
          · rw [if_pos blank, List.length_cons, Nat.add_le_add_iff_right, ← ih count]
            simp [Text.allBlank, blank]
          · simp [Text.allBlank, blank]

theorem fresh_line_document (buffer : Buffer) (fresh : buffer.Fresh) (line : Nat) (content : Text) (before : LexState)
    (here : buffer.lines[line]? = some content) (entered : buffer.states[line]? = some before) :
    buffer.document.lineText? line = some content ∧
      buffer.document.lineTokens line = (buffer.lexer.lexLine content before).1 := by
  obtain ⟨state, start, tokens, _⟩ := fresh_line buffer fresh line content here
  obtain rfl := Option.some.inj (start.symm.trans entered)
  constructor
  · rw [document_line_text, here]
  · exact line_tokens_of_buffer buffer line _ tokens

theorem front_token_blank (buffer : Buffer) (fresh : buffer.Fresh) (line cursor : Nat) (content : Text) (before : LexState)
    (here : buffer.lines[line]? = some content) (entered : buffer.states[line]? = some before) (reached : 0 < cursor)
    (leading : cursor ≤ (content.takeWhile isBlank).length) :
    ∃ token, buffer.document.tokenAt line cursor = some token ∧ token.isWhitespace = true := by
  have tokens := (fresh_line_document buffer fresh line content before here entered).2
  have blank : Text.allBlank (content.takeWhile isBlank) = true := List.all_takeWhile
  cases blanks : content.takeWhile isBlank with
  | nil =>
      rw [blanks] at leading
      exact absurd leading (Nat.not_le_of_lt reached)
  | cons c run =>
      rw [blanks] at leading blank
      rw [lex_line_blanks buffer.lexer content before c run blanks] at tokens
      obtain ⟨_, found⟩ := parted_token_at buffer.document line cursor [] _ _ (fresh_document_tiled buffer fresh) tokens
        reached leading
      exact ⟨_, found, blank⟩

theorem open_token_kind (buffer : Buffer) (fresh : buffer.Fresh) (line cursor : Nat) (content : Text) (before : LexState)
    (here : buffer.lines[line]? = some content) (entered : buffer.states[line]? = some before)
    (continuing : before.mode ≠ .plain) (past : (content.takeWhile isBlank).length < cursor)
    (fits : cursor ≤ content.length) (inside : cursor ≤ (before.mode.stretch content).length) :
    ∃ token, buffer.document.tokenAt line cursor = some token ∧
      (token.kind = some .string ∨ token.kind = some .comment) := by
  have tokens := (fresh_line_document buffer fresh line content before here entered).2
  have parts : content.takeWhile isBlank ++ content.dropWhile isBlank = content := List.takeWhile_append_dropWhile
  cases solid : content.dropWhile isBlank with
  | nil =>
      rw [solid, List.append_nil] at parts
      rw [parts] at past
      omega
  | cons c rest =>
      rw [solid] at parts
      have stretch := stretch_after_blanks before.mode (content.takeWhile isBlank) (c :: rest) continuing
        (fresh_state_marked buffer fresh line before entered) (fun c member => List.mem_takeWhile_imp member)
      rw [parts] at stretch
      obtain ⟨earlier, token, later, split, starts, stops, kind⟩ :=
        lex_line_open buffer.lexer content before c rest solid continuing
      obtain ⟨_, found⟩ := parted_token_at buffer.document line cursor earlier later token
        (fresh_document_tiled buffer fresh) (tokens.trans split) (by omega) (by omega)
      exact ⟨token, found, kind⟩

theorem open_line_current (buffer : Buffer) (fresh : buffer.Fresh) (line column : Nat) (content : Text) (before : LexState)
    (here : buffer.lines[line]? = some content) (entered : buffer.states[line]? = some before)
    (continuing : before.mode ≠ .plain) (inside : min column content.length ≤ (before.mode.stretch content).length) :
    CompletionContext.currentAt buffer.document line column =
      if Text.allBlank (content.take column) then some (Token.empty (min column content.length)) else none := by
  have shown := (fresh_line_document buffer fresh line content before here entered).1
  have under := token_at_clipped buffer.document line column content shown
  by_cases blank : Text.allBlank (content.take column) = true
  · rw [if_pos blank]
    have leading := (all_blank_take_iff content column).mp blank
    by_cases first : min column content.length = 0
    · have empty : buffer.document.tokenAt line column = some (Token.empty 0) := by
        simp only [Document.tokenAt, shown, first, if_true]
      rw [current_at_token buffer.document line column content _ shown empty]
      rfl
    · obtain ⟨token, found, whitespace⟩ := front_token_blank buffer fresh line _ content before here entered
        (Nat.pos_of_ne_zero first) leading
      have untyped : token.kind = none := by
        rw [Token.isWhitespace, Bool.and_eq_true, Option.isNone_iff_eq_none] at whitespace
        exact whitespace.1
      rw [current_at_token buffer.document line column content token shown (under.trans found), if_neg (by simp [untyped]),
        if_pos whitespace]
  · rw [if_neg blank]
    rw [all_blank_take_iff, Nat.not_le] at blank
    obtain ⟨token, found, kind⟩ := open_token_kind buffer fresh line _ content before here entered continuing blank
      (Nat.min_le_right _ _) inside
    rw [current_at_token buffer.document line column content token shown (under.trans found), if_pos kind]

theorem completion_on_open_line_iff (lexer : Lexer) (text : Text) (edits : List Edit) (line column : Nat) (content : Text)
    (before : LexState)
    (here : ((Buffer.ofText lexer text).editAll edits).lines[line]? = some content)
    (entered : ((Buffer.ofText lexer text).editAll edits).stateBefore line = some before)
    (continuing : before.isContinuing = true)
    (inside : min column content.length ≤ (before.mode.stretch content).length) :
    let document := ((Buffer.ofText lexer text).editAll edits).document
    let cursor := min column content.length
    (CompletionContext.at? document line column = none ↔ Text.allBlank (content.take column) = false) ∧
      (Text.allBlank (content.take column) = true → CompletionContext.at? document line column =
        some ⟨line, Token.empty cursor, document.previousToken line cursor⟩) := by
  intro document cursor
  have fresh : ((Buffer.ofText lexer text).editAll edits).Fresh := edit_all_fresh _ edits (of_text_fresh lexer text)
  rw [Buffer.stateBefore] at entered
  split at entered
  · have unended : before.mode ≠ .plain := of_decide_eq_true continuing
    have current : CompletionContext.currentAt document line column = _ :=
      open_line_current _ fresh line column content before here entered unended inside
    rw [CompletionContext.at?, current]
    by_cases blank : Text.allBlank (content.take column) = true
    · rw [if_pos blank, blank]
      exact ⟨by simp, fun _ => rfl⟩
    · rw [if_neg blank]
      rw [Bool.not_eq_true] at blank
      exact ⟨by simp [blank], fun all => by rw [blank] at all; cases all⟩
  · cases entered

theorem completion_on_open_line_iff_below_edit :
    let lexer : Lexer := { vocabulary := Vocabulary.ofLists {} }
    let edits : List Edit := [.setLine 0 "'a".toList]
    let buffer := (Buffer.ofText lexer "2\n 1' 2".toList).editAll edits
    let before : LexState := { mode := .inString '\'', lastKind := some .string }
    (buffer.lines[1]? = some " 1' 2".toList ∧ buffer.stateBefore 1 = some before ∧ before.isContinuing = true ∧
        min 2 " 1' 2".toList.length ≤ (before.mode.stretch " 1' 2".toList).length) ∧
      CompletionContext.at? buffer.document 1 2 = none := by
  intro lexer edits buffer before
  have here : buffer.lines[1]? = some " 1' 2".toList := by
    unfold buffer edits lexer
    cbv
  have entered : buffer.stateBefore 1 = some before := by
    unfold buffer edits lexer before
    cbv
  have inside : min 2 " 1' 2".toList.length ≤ (before.mode.stretch " 1' 2".toList).length := by decide
  refine ⟨⟨here, entered, rfl, inside⟩, ?_⟩
  exact (completion_on_open_line_iff lexer "2\n 1' 2".toList edits 1 2 _ before here entered rfl inside).1.mpr (by decide)

theorem words_offered_inside_string :
    let vocabulary := Vocabulary.ofLists { logical := ["and".toList] }
    let buffer := Buffer.ofText { vocabulary := vocabulary } "'a\n 1'".toList
    let before : LexState := { mode := .inString '\'', lastKind := some .string }
    let context : CompletionContext := ⟨1, Token.empty 1, some ⟨some .string, "'a".toList, 0, 2⟩⟩
    (buffer.lines[1]? = some " 1'".toList ∧ buffer.stateBefore 1 = some before ∧ before.isContinuing = true ∧
        1 < (before.mode.stretch " 1'".toList).length) ∧
      CompletionContext.at? buffer.document 1 1 = some context ∧
      (context.complete vocabulary).labels = ["and".toList] := by
  intro vocabulary buffer before context
  have here : buffer.lines[1]? = some " 1'".toList := by
    unfold buffer vocabulary
    cbv
  have entered : buffer.stateBefore 1 = some before := by
    unfold buffer vocabulary before
    cbv
  have offered : CompletionContext.at? buffer.document 1 1 = some context := by
    unfold buffer vocabulary context
    cbv
  have labels : (context.complete vocabulary).labels = ["and".toList] := by
    unfold vocabulary context
    cbv
  exact ⟨⟨here, entered, rfl, by decide⟩, offered, labels⟩

end FilterAssist
