import Mathlib
import FilterAssist.Completion
import FilterAssist.Proofs.Document.NearestToken

set_option autoImplicit false

/-!
What a completion replaces. The range is the token under the cursor, or nothing where the cursor stands
on blanks; the words offered go on from the text in that range, and they are chosen by the last
meaningful token that ends before it.
-/
namespace FilterAssist

def Document.tokensEnded (document : Document) (line column : Nat) : List (Nat × Token) :=
  (List.range line).flatMap (fun above => (document.lineTokens above).map (Prod.mk above)) ++
    ((document.lineTokens line).filter fun token => decide (token.stop ≤ column)).map (Prod.mk line)

theorem last_meaningful_ended (document : Document) (line column : Nat) (tiled : document.Tiled)
    (straddling : ∀ token ∈ document.lineTokens line, token.start < column → column < token.stop →
      token.isMeaningful = false) :
    lastMeaningful (document.tokensBefore line column) = lastMeaningful (document.tokensEnded line column) := by
  have same : ((document.lineTokens line).filter fun token => decide (token.start < column)).filter Token.isMeaningful =
      ((document.lineTokens line).filter fun token => decide (token.stop ≤ column)).filter Token.isMeaningful := by
    rw [List.filter_filter, List.filter_filter]
    refine List.filter_congr (fun token member => ?_)
    have bounds := tiled_tokens_within document line tiled token member
    by_cases ended : token.stop ≤ column
    · have started : token.start < column := by omega
      simp [ended, started]
    · by_cases started : token.start < column
      · simp [straddling token member started (by omega)]
      · simp [started, ended]
  rw [lastMeaningful, lastMeaningful, Document.tokensBefore, Document.tokensEnded, List.filter_append, List.filter_append,
    List.filter_map, List.filter_map]
  exact congrArg (fun tokens => List.getLast? (_ ++ List.map (Prod.mk line) tokens)) same

theorem current_at_token (document : Document) (line column : Nat) (content : Text) (token : Token)
    (here : document.lineText? line = some content) (found : document.tokenAt line column = some token) :
    CompletionContext.currentAt document line column =
      if token.kind = some .string ∨ token.kind = some .comment then none
      else if token.isWhitespace then some (Token.empty (min column content.length))
      else if token.text ≠ [] ∧ token.text.all isCompletable then some token
      else none := by
  have length : document.lineLength line = content.length := by
    rw [Document.lineLength, here]
    rfl
  rw [CompletionContext.currentAt, found, length]

theorem whitespace_meaningless (token : Token) (blank : token.isWhitespace = true) : token.isMeaningful = false := by
  rw [Token.isWhitespace, Bool.and_eq_true, Option.isNone_iff_eq_none] at blank
  rw [Token.isMeaningful, blank.1]

-- Where a token to complete stands: it covers the cursor, or it is empty and lies under the cursor, at the start
-- of the line or on a token that means nothing.
inductive Resolves (document : Document) (line cursor : Nat) : Token → Prop
  | start (first : cursor = 0) : Resolves document line cursor (Token.empty cursor)
  | blank (earlier later : List Token) (token : Token)
      (covers : Covers (document.lineTokens line) earlier token later cursor)
      (meaningless : token.isMeaningful = false) : Resolves document line cursor (Token.empty cursor)
  | word (earlier later : List Token) (token : Token)
      (covers : Covers (document.lineTokens line) earlier token later cursor) : Resolves document line cursor token

theorem context_at_resolves (document : Document) (line column : Nat) (context : CompletionContext)
    (tiled : document.Tiled) (found : CompletionContext.at? document line column = some context) :
    ∃ content, document.lineText? line = some content ∧ context.line = line ∧
      context.previous = document.previousToken line context.current.start ∧
      Resolves document line (min column content.length) context.current := by
  obtain ⟨current, resolved, rfl⟩ := Option.map_eq_some_iff.mp found
  cases here : document.lineText? line with
  | none =>
      simp only [CompletionContext.currentAt, Document.tokenAt, here] at resolved
      cases resolved
  | some content =>
      refine ⟨content, rfl, rfl, rfl, ?_⟩
      rcases token_at_cases document line column content tiled here with
        ⟨first, under⟩ | ⟨earlier, token, later, covers, under⟩
      · rw [current_at_token document line column content _ here under] at resolved
        cases resolved
        exact .start first
      · rw [current_at_token document line column content token here under] at resolved
        split at resolved
        · cases resolved
        · split at resolved
          · rename_i blank
            cases resolved
            exact .blank earlier later token covers (whitespace_meaningless token blank)
          · split at resolved
            · cases resolved
              exact .word earlier later current covers
            · cases resolved

theorem resolves_range (document : Document) (line cursor : Nat) (content : Text) (current : Token)
    (tiled : document.Tiled) (here : document.lineText? line = some content)
    (resolves : Resolves document line cursor current) :
    current.start ≤ cursor ∧ cursor ≤ current.stop ∧ current.text = slice content current.start current.stop := by
  have nothing : (Token.empty cursor).text = slice content cursor cursor := by simp [Token.empty, slice]
  cases resolves with
  | start first => exact ⟨Nat.le_refl _, Nat.le_refl _, nothing⟩
  | blank earlier later token covers meaningless => exact ⟨Nat.le_refl _, Nat.le_refl _, nothing⟩
  | word earlier later token covers =>
      have member : current ∈ document.lineTokens line := by
        rw [covers.parts]
        exact List.mem_append_right earlier List.mem_cons_self
      exact ⟨Nat.le_of_lt covers.starts, covers.stops,
        tiles_text content _ 0 _ (tiled_content document line content tiled here) current member⟩

theorem covers_straddling (tokens earlier later : List Token) (under token : Token) (column place : Nat)
    (covers : Covers tokens earlier under later column) (low : under.start ≤ place) (high : place ≤ under.stop)
    (member : token ∈ tokens) (started : token.start < place) (unended : place < token.stop) : token = under := by
  rw [covers.parts] at member
  rcases List.mem_append.mp member with before | there
  · have bounds := covers.left token before
    omega
  · rcases List.mem_cons.mp there with same | after
    · exact same
    · have bounds := covers.right token after
      omega

theorem resolves_straddling (document : Document) (line cursor : Nat) (current : Token)
    (resolves : Resolves document line cursor current) :
    ∀ token ∈ document.lineTokens line, token.start < current.start → current.start < token.stop →
      token.isMeaningful = false := by
  intro token member started unended
  cases resolves with
  | start first =>
      subst first
      exact absurd started (Nat.not_lt_zero _)
  | blank earlier later under covers meaningless =>
      rw [covers_straddling _ earlier later under token cursor cursor covers (Nat.le_of_lt covers.starts) covers.stops
        member started unended]
      exact meaningless
  | word earlier later under covers =>
      have forward : current.start ≤ current.stop := Nat.le_trans (Nat.le_of_lt covers.starts) covers.stops
      have same := covers_straddling _ earlier later current token cursor current.start covers (Nat.le_refl _) forward member
        started unended
      rw [same] at started
      exact absurd started (Nat.lt_irrefl _)

theorem ended_before_other (document : Document) (line : Nat) (current : Token) (tiled : document.Tiled) :
    lastMeaningful (document.tokensEnded line current.start) ≠ some (line, current) := by
  intro last
  have member := (List.mem_filter.mp (List.mem_of_getLast? last)).1
  rcases List.mem_append.mp member with above | beside
  · obtain ⟨higher, inside, placed⟩ := List.mem_flatMap.mp above
    obtain ⟨_, _, same⟩ := List.mem_map.mp placed
    rw [(Prod.mk.inj same).1] at inside
    exact absurd (List.mem_range.mp inside) (Nat.lt_irrefl line)
  · obtain ⟨token, kept, same⟩ := List.mem_map.mp beside
    rw [(Prod.mk.inj same).2, List.mem_filter, decide_eq_true_eq] at kept
    have bounds := tiled_tokens_within document line tiled current kept.1
    omega

theorem last_meaningful_none_iff (placed : List (Nat × Token)) :
    lastMeaningful placed = none ↔ ∀ entry ∈ placed, entry.2.isMeaningful = false := by
  rw [lastMeaningful, List.getLast?_eq_none_iff, List.filter_eq_nil_iff]
  simp only [Bool.not_eq_true]

theorem drop_repeats_sublist (candidates : List Candidate) : (dropRepeats candidates).Sublist candidates := by
  induction candidates with
  | nil => exact .slnil
  | cons candidate rest ih =>
      rw [dropRepeats]
      split
      · rename_i none
        exact List.singleton_sublist.mpr List.mem_cons_self
      · rename_i next others shape
        rw [shape] at ih
        split
        · exact ((List.sublist_cons_self next others).trans ih).cons_cons candidate
        · exact ih.cons_cons candidate

def offeredWords (vocabulary : Vocabulary) (typed : Text) (categories : List WordCategory) : List (Word × WordCategory) :=
  categories.flatMap fun category =>
    ((vocabulary.set category).entries.filter fun word => word.continues typed (lowerCase typed)).map
      fun word => (word, category)

theorem offered_words_mem (vocabulary : Vocabulary) (typed : Text) (categories : List WordCategory) (word : Word)
    (category : WordCategory) :
    (word, category) ∈ offeredWords vocabulary typed categories ↔
      category ∈ categories ∧ word ∈ (vocabulary.set category).entries ∧
        word.continues typed (lowerCase typed) = true := by
  constructor
  · intro offered
    obtain ⟨other, allowed, kept⟩ := List.mem_flatMap.mp offered
    obtain ⟨entry, continuing, same⟩ := List.mem_map.mp kept
    obtain ⟨rfl, rfl⟩ := Prod.mk.inj same
    exact ⟨allowed, List.mem_filter.mp continuing⟩
  · rintro ⟨allowed, continuing⟩
    exact List.mem_flatMap.mpr ⟨category, allowed, List.mem_map_of_mem (List.mem_filter.mpr continuing)⟩

theorem completion_candidate_word (vocabulary : Vocabulary) (typed : Text) (previous : Option Token)
    (candidate : Candidate) (offered : candidate ∈ completionCandidates vocabulary typed previous) :
    ∃ category ∈ candidateCategories previous, ∃ word ∈ (vocabulary.set category).entries,
      word.continues typed (lowerCase typed) = true ∧ candidate = ⟨word.text, some category⟩ := by
  have sorted := (drop_repeats_sublist _).subset offered
  obtain ⟨⟨word, category⟩, member, rfl⟩ := List.mem_map.mp sorted
  obtain ⟨allowed, present, continues⟩ :=
    (offered_words_mem vocabulary typed _ word category).mp (List.mem_mergeSort.mp member)
  exact ⟨category, allowed, word, present, continues, rfl⟩

theorem completion_label_continues (vocabulary : Vocabulary) (typed : Text) (previous : Option Token)
    (candidate : Candidate) (offered : candidate ∈ completionCandidates vocabulary typed previous) :
    lowerCase typed <+: lowerCase candidate.label := by
  obtain ⟨category, _, word, _, continues, rfl⟩ := completion_candidate_word vocabulary typed previous candidate offered
  rw [Word.continues, Bool.and_eq_true] at continues
  rw [← word.folded_eq]
  exact List.isPrefixOf_iff_prefix.mp continues.2

theorem completion_replaces_current (lexer : Lexer) (text : Text) (edits : List Edit) (vocabulary : Vocabulary)
    (line column : Nat) (context : CompletionContext)
    (found : CompletionContext.at? ((Buffer.ofText lexer text).editAll edits).document line column = some context) :
    let document := ((Buffer.ofText lexer text).editAll edits).document
    let list := context.complete vocabulary
    let previous := lastMeaningful (document.tokensEnded line list.start)
    ∃ content, document.lineText? line = some content ∧ list.line = line ∧
      list.start ≤ min column content.length ∧ min column content.length ≤ list.stop ∧
      slice content list.start list.stop = context.current.text ∧
      context.previous = previous.map Prod.snd ∧
      (context.previous = none ↔ ∀ placed ∈ document.tokensEnded line list.start, placed.2.isMeaningful = false) ∧
      previous ≠ some (line, context.current) ∧
      ∀ label ∈ list.labels, lowerCase (slice content list.start list.stop) <+: lowerCase label := by
  intro document list previous
  have tiled : document.Tiled := fresh_document_tiled _ (edit_all_fresh _ edits (of_text_fresh lexer text))
  obtain ⟨content, here, place, nearest, resolves⟩ := context_at_resolves document line column context tiled found
  obtain ⟨starts, stops, replaced⟩ := resolves_range document line _ content context.current tiled here resolves
  have inside := line_text_inside document line content here
  have ended : context.previous = previous.map Prod.snd := by
    rw [nearest, previous_token_nearest document line _ tiled inside, last_meaningful_ended document line _ tiled
      (resolves_straddling document line _ context.current resolves)]
    rfl
  refine ⟨content, here, place, starts, stops, replaced.symm, ended, ?_, ?_, ?_⟩
  · rw [ended, Option.map_eq_none_iff]
    exact last_meaningful_none_iff _
  · exact ended_before_other document line context.current tiled
  · intro label member
    obtain ⟨candidate, offered, rfl⟩ := List.mem_map.mp member
    change lowerCase (slice content context.current.start context.current.stop) <+: _
    rw [← replaced]
    exact completion_label_continues vocabulary _ _ candidate offered

theorem completion_replaces_current_below_comment :
    let vocabulary := Vocabulary.ofLists { logical := ["or".toList, "order".toList] }
    let lexer : Lexer := { vocabulary := vocabulary }
    let edits : List Edit := [.setLine 1 " OR".toList]
    let document := ((Buffer.ofText lexer "'a' // b".toList).editAll edits).document
    let context : CompletionContext :=
      ⟨1, ⟨some .logical, "OR".toList, 1, 3⟩, some ⟨some .string, "'a'".toList, 0, 3⟩⟩
    CompletionContext.at? document 1 2 = some context ∧
      (context.complete vocabulary).labels = ["order".toList] ∧
      lastMeaningful (document.tokensEnded 1 1) ≠ some (1, context.current) ∧
      lowerCase "OR".toList <+: lowerCase "order".toList := by
  intro vocabulary lexer edits document context
  have found : CompletionContext.at? document 1 2 = some context := by
    unfold document edits lexer vocabulary context
    cbv
  have labels : (context.complete vocabulary).labels = ["order".toList] := by
    unfold context vocabulary
    cbv
  obtain ⟨content, _, _, _, _, replaced, _, _, other, continues⟩ :=
    completion_replaces_current lexer "'a' // b".toList edits vocabulary 1 2 context found
  have extended := continues "order".toList (by rw [labels]; exact List.mem_cons_self)
  rw [replaced] at extended
  exact ⟨found, labels, other, extended⟩

end FilterAssist
