import FilterAssist.Proofs.Buffer.Relex
import FilterAssist.Proofs.Lexer.Tiling

set_option autoImplicit false

/-!
Looking up the token at a column. Where the tokens tile their line, the halving search finds the one
token that starts before the column and ends at or after it.
-/
namespace FilterAssist

theorem partition_from_point (before : Token → Bool) (tokens : List Token) (base size point : Nat)
    (parted : ∀ index token, tokens[index]? = some token → (before token = true ↔ index < point))
    (low : base ≤ point) (high : point ≤ base + size) (fits : base + size ≤ tokens.length) :
    partitionFrom before tokens base size = point := by
  have probe (index : Nat) (inside : index < tokens.length) : tokens[index]?.any before = true ↔ index < point := by
    rw [List.getElem?_eq_getElem inside, Option.any_some]
    exact parted index _ (List.getElem?_eq_getElem inside)
  rw [partitionFrom]
  by_cases many : 1 < size
  · rw [if_pos many]
    dsimp only
    have middle := probe (base + size / 2) (by omega)
    by_cases passed : base + size / 2 < point
    · rw [if_pos (middle.mpr passed)]
      exact partition_from_point before tokens _ _ point parted (by omega) (by omega) (by omega)
    · rw [if_neg (fun found => passed (middle.mp found))]
      exact partition_from_point before tokens _ _ point parted (by omega) (by omega) (by omega)
  · rw [if_neg many]
    by_cases inside : base < tokens.length
    · have last := probe base inside
      by_cases passed : base < point
      · rw [if_pos (last.mpr passed)]
        omega
      · rw [if_neg (fun found => passed (last.mp found))]
        omega
    · rw [List.getElem?_eq_none (Nat.le_of_not_lt inside), Option.any_none, if_neg Bool.false_ne_true]
      omega
termination_by size

theorem partition_point_append (before : Token → Bool) (earlier later : List Token)
    (passed : ∀ token ∈ earlier, before token = true) (ahead : ∀ token ∈ later, before token = false) :
    partitionPoint before (earlier ++ later) = earlier.length := by
  apply partition_from_point
  · intro index token found
    by_cases inside : index < earlier.length
    · rw [List.getElem?_append_left inside] at found
      exact iff_of_true (passed token (List.mem_of_getElem? found)) inside
    · rw [List.getElem?_append_right (Nat.le_of_not_lt inside)] at found
      have rejected := ahead token (List.mem_of_getElem? found)
      exact iff_of_false (by rw [rejected]; exact Bool.false_ne_true) inside
  · exact Nat.zero_le _
  · rw [List.length_append]
    omega
  · exact Nat.le_of_eq (Nat.zero_add _)

theorem tiles_within (line : Text) (tokens : List Token) (first last : Nat) (tiles : Tiles line first tokens last) :
    ∀ token ∈ tokens, first ≤ token.start ∧ token.start < token.stop ∧ token.stop ≤ last := by
  induction tokens generalizing first with
  | nil => exact fun token member => absurd member List.not_mem_nil
  | cons head tokens ih =>
      obtain ⟨starts, forward, _, rest⟩ := tiles
      have reach := tiles_ordered line tokens head.stop last rest
      intro token member
      rcases List.mem_cons.mp member with rfl | later
      · omega
      · have bounds := ih head.stop rest token later
        omega

theorem tiles_start_inj (line : Text) (tokens : List Token) (first last : Nat) (tiles : Tiles line first tokens last)
    (one other : Token) (here : one ∈ tokens) (there : other ∈ tokens) (same : one.start = other.start) :
    one = other := by
  induction tokens generalizing first with
  | nil => cases here
  | cons token tokens ih =>
      obtain ⟨_, forward, _, rest⟩ := tiles
      have later := tiles_within line tokens token.stop last rest
      rcases List.mem_cons.mp here with rfl | deeper <;> rcases List.mem_cons.mp there with rfl | further
      · rfl
      · have bounds := later other further
        omega
      · have bounds := later one deeper
        omega
      · exact ih token.stop rest deeper further

theorem tiles_text (line : Text) (tokens : List Token) (first last : Nat) (tiles : Tiles line first tokens last) :
    ∀ token ∈ tokens, token.text = slice line token.start token.stop := by
  induction tokens generalizing first with
  | nil => exact fun token member => absurd member List.not_mem_nil
  | cons head tokens ih =>
      obtain ⟨_, _, content, rest⟩ := tiles
      intro token member
      rcases List.mem_cons.mp member with rfl | later
      · exact content
      · exact ih head.stop rest token later

structure Covers (tokens earlier : List Token) (token : Token) (later : List Token) (column : Nat) : Prop where
  parts : tokens = earlier ++ token :: later
  starts : token.start < column
  stops : column ≤ token.stop
  left : ∀ other ∈ earlier, other.start < other.stop ∧ other.stop ≤ token.start
  right : ∀ other ∈ later, token.stop ≤ other.start ∧ other.start < other.stop

theorem covers_exists (line : Text) (tokens : List Token) (first last column : Nat)
    (tiles : Tiles line first tokens last) (entered : first < column) (inside : column ≤ last) :
    ∃ earlier token later, Covers tokens earlier token later column := by
  induction tokens generalizing first with
  | nil =>
      have same : first = last := tiles
      omega
  | cons head tokens ih =>
      obtain ⟨starts, forward, _, rest⟩ := tiles
      by_cases here : column ≤ head.stop
      · refine ⟨[], head, tokens, rfl, by omega, here, by simp, fun other member => ?_⟩
        have bounds := tiles_within line tokens head.stop last rest other member
        exact ⟨bounds.1, bounds.2.1⟩
      · obtain ⟨earlier, token, later, covers⟩ := ih head.stop rest (by omega)
        have bounds := tiles_within line tokens head.stop last rest token (by rw [covers.parts]; simp)
        refine ⟨head :: earlier, token, later, by rw [covers.parts, List.cons_append], covers.starts, covers.stops,
          fun other member => ?_, covers.right⟩
        rcases List.mem_cons.mp member with rfl | deeper
        · omega
        · exact covers.left other deeper

theorem tiles_covers (line : Text) (earlier later : List Token) (token : Token) (first last column : Nat)
    (tiles : Tiles line first (earlier ++ token :: later) last) (starts : token.start < column)
    (stops : column ≤ token.stop) : Covers (earlier ++ token :: later) earlier token later column := by
  induction earlier generalizing first with
  | nil =>
      obtain ⟨_, _, _, rest⟩ := tiles
      refine ⟨rfl, starts, stops, by simp, fun other member => ?_⟩
      have bounds := tiles_within line later token.stop last rest other member
      exact ⟨bounds.1, bounds.2.1⟩
  | cons head earlier ih =>
      obtain ⟨_, forward, _, rest⟩ := tiles
      have covers := ih head.stop rest
      have bounds := tiles_within line _ head.stop last rest token (by simp)
      refine ⟨rfl, starts, stops, fun other member => ?_, covers.right⟩
      rcases List.mem_cons.mp member with rfl | deeper
      · exact ⟨by omega, bounds.1⟩
      · exact covers.left other deeper

theorem covers_partition (tokens earlier later : List Token) (token : Token) (column : Nat)
    (covers : Covers tokens earlier token later column) :
    partitionPoint (fun token => decide (token.stop < column)) tokens = earlier.length := by
  have starts := covers.starts
  have stops := covers.stops
  rw [covers.parts]
  apply partition_point_append
  · intro other member
    have bounds := covers.left other member
    exact decide_eq_true (by omega)
  · intro other member
    rcases List.mem_cons.mp member with rfl | deeper
    · exact decide_eq_false (by omega)
    · have bounds := covers.right other deeper
      exact decide_eq_false (by omega)

def Document.Tiled (document : Document) : Prop :=
  ∀ content ∈ document.lines, Tiles content.text 0 content.tokens content.text.length

theorem tiled_line (document : Document) (line : Nat) (tiled : document.Tiled) :
    ∃ text, Tiles text 0 (document.lineTokens line) (document.lineLength line) := by
  cases found : document.lines[line]? with
  | none => exact ⟨[], by simp [Document.lineTokens, Document.lineLength, Document.lineText?, found, Tiles]⟩
  | some content =>
      refine ⟨content.text, ?_⟩
      simp only [Document.lineTokens, Document.lineLength, Document.lineText?, found, Option.map_some, Option.getD_some]
      exact tiled content (List.mem_of_getElem? found)

theorem tiled_content (document : Document) (line : Nat) (content : Text) (tiled : document.Tiled)
    (here : document.lineText? line = some content) :
    Tiles content 0 (document.lineTokens line) content.length := by
  rw [Document.lineText?, Option.map_eq_some_iff] at here
  obtain ⟨row, present, rfl⟩ := here
  rw [Document.lineTokens, present]
  exact tiled row (List.mem_of_getElem? present)

theorem line_text_inside (document : Document) (line : Nat) (content : Text)
    (here : document.lineText? line = some content) : line < document.lineCount := by
  rw [Document.lineText?, Option.map_eq_some_iff] at here
  obtain ⟨row, present, _⟩ := here
  exact (List.getElem?_eq_some_iff.mp present).1

theorem tiled_tokens_within (document : Document) (line : Nat) (tiled : document.Tiled) :
    ∀ token ∈ document.lineTokens line, token.start < token.stop ∧ token.stop ≤ document.lineLength line := by
  obtain ⟨text, tiles⟩ := tiled_line document line tiled
  exact fun token member => (tiles_within text _ 0 _ tiles token member).2

theorem covers_token_at (document : Document) (line column : Nat) (earlier later : List Token) (token : Token)
    (covers : Covers (document.lineTokens line) earlier token later column)
    (inside : column ≤ document.lineLength line) : document.tokenAt line column = some token := by
  have entered : 0 < column := Nat.zero_lt_of_lt covers.starts
  cases content : document.lineText? line with
  | none =>
      rw [Document.lineLength, content] at inside
      exact absurd inside (Nat.not_le_of_lt entered)
  | some text =>
      rw [Document.lineLength, content] at inside
      have clipped : min column text.length = column := Nat.min_eq_left inside
      simp only [Document.tokenAt, content, clipped, if_neg (Nat.ne_of_gt entered),
        covers_partition _ earlier later token column covers]
      rw [covers.parts, List.getElem?_append_right (Nat.le_refl _), Nat.sub_self, List.getElem?_cons_zero]

theorem token_at_covers (document : Document) (line column : Nat) (tiled : document.Tiled) (entered : 0 < column)
    (inside : column ≤ document.lineLength line) :
    ∃ earlier token later, Covers (document.lineTokens line) earlier token later column ∧
      document.tokenAt line column = some token := by
  obtain ⟨text, tiles⟩ := tiled_line document line tiled
  obtain ⟨earlier, token, later, covers⟩ := covers_exists text _ 0 _ column tiles entered inside
  exact ⟨earlier, token, later, covers, covers_token_at document line column earlier later token covers inside⟩

theorem token_at_clipped (document : Document) (line column : Nat) (content : Text)
    (here : document.lineText? line = some content) :
    document.tokenAt line column = document.tokenAt line (min column content.length) := by
  simp only [Document.tokenAt, here, Nat.min_assoc, Nat.min_self]

theorem parted_token_at (document : Document) (line column : Nat) (earlier later : List Token) (token : Token)
    (tiled : document.Tiled) (parts : document.lineTokens line = earlier ++ token :: later)
    (starts : token.start < column) (stops : column ≤ token.stop) :
    Covers (document.lineTokens line) earlier token later column ∧ document.tokenAt line column = some token := by
  obtain ⟨text, tiles⟩ := tiled_line document line tiled
  have member : token ∈ document.lineTokens line := by
    rw [parts]
    exact List.mem_append_right earlier List.mem_cons_self
  have bounds := tiled_tokens_within document line tiled token member
  have covers : Covers (document.lineTokens line) earlier token later column := by
    rw [parts] at tiles ⊢
    exact tiles_covers text earlier later token 0 _ column tiles starts stops
  exact ⟨covers, covers_token_at document line column earlier later token covers (Nat.le_trans stops bounds.2)⟩

theorem token_at_cases (document : Document) (line column : Nat) (content : Text) (tiled : document.Tiled)
    (here : document.lineText? line = some content) :
    (min column content.length = 0 ∧ document.tokenAt line column = some (Token.empty 0)) ∨
      ∃ earlier token later, Covers (document.lineTokens line) earlier token later (min column content.length) ∧
        document.tokenAt line column = some token := by
  have length : document.lineLength line = content.length := by
    rw [Document.lineLength, here]
    rfl
  by_cases first : min column content.length = 0
  · left
    simp only [Document.tokenAt, here, first, if_true, and_self]
  · right
    rw [token_at_clipped document line column content here]
    exact token_at_covers document line _ tiled (Nat.pos_of_ne_zero first) (by rw [length]; exact Nat.min_le_right _ _)

theorem fresh_document_tiled (buffer : Buffer) (fresh : buffer.Fresh) : buffer.document.Tiled := by
  intro content member
  obtain ⟨row, present, rfl⟩ := List.mem_map.mp member
  obtain ⟨line, found⟩ := List.getElem?_of_mem present
  obtain ⟨before, _, lexed⟩ := lexed_row buffer.lexer .start buffer.rows line row fresh.lexed found
  have tokens : row.tokens = (buffer.lexer.lexLine row.text before).1 := congrArg BufferLine.tokens lexed
  rw [tokens]
  exact lex_line_tiles buffer.lexer row.text before

theorem document_line_text (buffer : Buffer) (line : Nat) : buffer.document.lineText? line = buffer.lines[line]? := by
  rw [Document.lineText?, Buffer.document, Buffer.lines, List.getElem?_map, List.getElem?_map, Option.map_map]
  rfl

theorem covers_filter (tokens earlier later : List Token) (token : Token) (column : Nat)
    (covers : Covers tokens earlier token later column) :
    (tokens.filter fun other => decide (other.start < column ∧ column ≤ other.stop)) = [token] := by
  have starts := covers.starts
  have stops := covers.stops
  have left : (earlier.filter fun other => decide (other.start < column ∧ column ≤ other.stop)) = [] := by
    rw [List.filter_eq_nil_iff]
    intro other member
    have bounds := covers.left other member
    rw [decide_eq_true_eq]
    omega
  have right : (later.filter fun other => decide (other.start < column ∧ column ≤ other.stop)) = [] := by
    rw [List.filter_eq_nil_iff]
    intro other member
    have bounds := covers.right other member
    rw [decide_eq_true_eq]
    omega
  have here : decide (token.start < column ∧ column ≤ token.stop) = true := decide_eq_true ⟨starts, stops⟩
  rw [covers.parts, List.filter_append, left, List.nil_append, List.filter_cons, if_pos here, right]

theorem covers_first (tokens earlier later : List Token) (token : Token) (column : Nat)
    (covers : Covers tokens earlier token later column) :
    (tokens.findIdx fun other => decide (column ≤ other.stop)) = earlier.length := by
  have starts := covers.starts
  have passed : (earlier.findIdx fun other => decide (column ≤ other.stop)) = earlier.length := by
    rw [List.findIdx_eq_length]
    intro other member
    have bounds := covers.left other member
    exact decide_eq_false (by omega)
  rw [covers.parts, List.findIdx_append, passed, if_neg (Nat.lt_irrefl _), List.findIdx_cons,
    decide_eq_true covers.stops, cond_true, Nat.zero_add]

theorem token_at_none_iff (document : Document) (line column : Nat) (tiled : document.Tiled) :
    document.tokenAt line column = none ↔ document.lineCount ≤ line := by
  cases here : document.lineText? line with
  | none =>
      have outside : document.lineCount ≤ line := by
        rw [Document.lineText?, Option.map_eq_none_iff, List.getElem?_eq_none_iff] at here
        exact here
      exact iff_of_true (by rw [Document.tokenAt, here]) outside
  | some content =>
      have inside := line_text_inside document line content here
      refine iff_of_false ?_ (Nat.not_le_of_lt inside)
      rcases token_at_cases document line column content tiled here with ⟨_, found⟩ | ⟨_, token, _, _, found⟩
      · rw [found]
        exact Option.some_ne_none _
      · rw [found]
        exact Option.some_ne_none _

theorem cursor_token_unique (lexer : Lexer) (text : Text) (edits : List Edit) (line column : Nat) :
    let document := ((Buffer.ofText lexer text).editAll edits).document
    (document.tokenAt line column = none ↔ document.lineCount ≤ line) ∧
      ∀ content, document.lineText? line = some content →
        let clipped := min column content.length
        (clipped = 0 → document.tokenAt line column = some (Token.empty 0)) ∧
          (clipped ≠ 0 → ∃ token, document.tokenAt line column = some token ∧
            ((document.lineTokens line).filter fun other =>
              decide (other.start < clipped ∧ clipped ≤ other.stop)) = [token] ∧
            partitionPoint (fun other => decide (other.stop < clipped)) (document.lineTokens line) =
              (document.lineTokens line).findIdx fun other => decide (clipped ≤ other.stop)) := by
  intro document
  have tiled : document.Tiled := fresh_document_tiled _ (edit_all_fresh _ edits (of_text_fresh lexer text))
  refine ⟨token_at_none_iff document line column tiled, ?_⟩
  intro content here clipped
  rcases token_at_cases document line column content tiled here with ⟨first, found⟩ | ⟨earlier, token, later, covers, found⟩
  · exact ⟨fun _ => found, fun inside => absurd first inside⟩
  · have entered : clipped ≠ 0 := Nat.ne_of_gt (Nat.zero_lt_of_lt covers.starts)
    refine ⟨fun origin => absurd origin entered, fun _ => ⟨token, found, ?_, ?_⟩⟩
    · exact covers_filter _ earlier later token clipped covers
    · rw [covers_partition _ earlier later token clipped covers, covers_first _ earlier later token clipped covers]

theorem cursor_token_unique_past_end :
    let lexer : Lexer := { vocabulary := Vocabulary.ofLists {} }
    let document := ((Buffer.ofText lexer "\n5 'b'".toList).editAll [.setLine 0 "/*".toList]).document
    document.lineText? 1 = some "5 'b'".toList ∧ min 9 "5 'b'".toList.length ≠ 0 ∧
      ∃ token, document.tokenAt 1 9 = some token ∧
        ((document.lineTokens 1).filter fun other => decide (other.start < 5 ∧ 5 ≤ other.stop)) = [token] := by
  intro lexer document
  have lines : ((Buffer.ofText lexer "\n5 'b'".toList).editAll [.setLine 0 "/*".toList]).lines = _ :=
    edit_all_lines _ _
  have here : document.lineText? 1 = some "5 'b'".toList := by
    rw [document_line_text, lines, of_text_lines]
    decide
  obtain ⟨token, found, single, _⟩ :=
    ((cursor_token_unique lexer "\n5 'b'".toList [.setLine 0 "/*".toList] 1 9).2 _ here).2 (by decide)
  exact ⟨here, by decide, token, found, single⟩

end FilterAssist
