import Mathlib
import FilterAssist.Command
import FilterAssist.Proofs.Fold.Uniqueness
import FilterAssist.Proofs.Text.Numerals

set_option autoImplicit false

/-!
Folding a document when it is loaded. Of the long strings of the document, loading folds those that are not folded
yet, in the order of the document and with one id after another. So a registry without folds gets a fold for each
of them, loading once more does nothing, and the listing of the folds has one line for each.
-/
namespace FilterAssist

def Document.longStringsOn (document : Document) (length line : Nat) : List (Nat × Token) :=
  ((document.lineTokens line).filter fun token =>
    decide (token.kind = some .string ∧ length < token.text.length)).map (Prod.mk line)

def Document.longStrings (document : Document) (length : Nat) : List (Nat × Token) :=
  (List.range document.lineCount).flatMap (document.longStringsOn length)

def placeOf (string : Nat × Token) : Nat × Nat :=
  (string.1, string.2.start)

def Fold.ofString (string : Nat × Token) : Fold :=
  ⟨string.1, string.2.start, string.2.stop, string.2.text⟩

def markCalls (events : List FoldEvent) : List FoldEvent :=
  events.filter fun event => event.markedId.isSome || event.clearedId.isSome

namespace FoldRegistry

def isFree (registry : FoldRegistry) (string : Nat × Token) : Bool :=
  (registry.isFolded string.1 string.2).isNone

def foldsFor (registry : FoldRegistry) (strings : List (Nat × Token)) : List (Nat × Fold) :=
  (strings.zipIdx registry.nextId).map fun entry => (entry.2, Fold.ofString entry.1)

def marksFor (registry : FoldRegistry) (strings : List (Nat × Token)) : List FoldEvent :=
  (strings.zipIdx registry.nextId).map fun entry =>
    .mark entry.2 entry.1.1 entry.1.2.start entry.1.2.stop (registry.placeholder entry.1.2)

def withFolds (registry : FoldRegistry) (strings : List (Nat × Token)) : FoldRegistry :=
  { registry with folds := registry.folds ++ registry.foldsFor strings, nextId := registry.nextId + strings.length }

-- Some strings were folded one after the other, each with a mark of its own, and nothing else was done.
structure FoldsUp (before : FoldRegistry) (strings : List (Nat × Token)) (events : List FoldEvent)
    (after : FoldRegistry) : Prop where
  registry : after = before.withFolds strings
  calls : markCalls events = before.marksFor strings

end FoldRegistry

theorem long_strings_mem (document : Document) (length line : Nat) (token : Token) :
    (line, token) ∈ document.longStrings length ↔
      token ∈ document.lineTokens line ∧ token.kind = some .string ∧ length < token.text.length := by
  rw [Document.longStrings, List.mem_flatMap]
  constructor
  · rintro ⟨other, _, member⟩
    obtain ⟨found, present, same⟩ := List.mem_map.mp member
    cases same
    rw [List.mem_filter, decide_eq_true_eq] at present
    exact present
  · rintro ⟨present, long⟩
    have inside : line < document.lineCount := by
      by_contra outside
      rw [Document.lineTokens, List.getElem?_eq_none (Nat.le_of_not_lt outside)] at present
      cases present
    refine ⟨line, List.mem_range.mpr inside, List.mem_map_of_mem (List.mem_filter.mpr ⟨present, ?_⟩)⟩
    exact decide_eq_true long

theorem tiles_rising (line : Text) (tokens : List Token) (first last : Nat) (tiles : Tiles line first tokens last) :
    tokens.Pairwise fun one other => one.start < other.start := by
  induction tokens generalizing first with
  | nil => exact .nil
  | cons token tokens ih =>
      obtain ⟨starts, forward, _, rest⟩ := tiles
      refine .cons (fun other member => ?_) (ih token.stop rest)
      have bounds := tiles_within line tokens token.stop last rest other member
      omega

theorem long_strings_on_rising (document : Document) (length line : Nat) (tiled : document.Tiled) :
    ((document.longStringsOn length line).map placeOf).Pairwise (Prod.Lex (· < ·) (· < ·)) := by
  obtain ⟨text, tiles⟩ := tiled_line document line tiled
  rw [Document.longStringsOn, List.map_map, List.pairwise_map]
  refine ((tiles_rising text _ 0 _ tiles).sublist List.filter_sublist).imp fun less => ?_
  exact Prod.Lex.right line less

theorem long_strings_rising (document : Document) (length : Nat) (tiled : document.Tiled) :
    ((document.longStrings length).map placeOf).Pairwise (Prod.Lex (· < ·) (· < ·)) := by
  rw [List.pairwise_map, Document.longStrings, List.pairwise_flatMap]
  refine ⟨fun line _ => List.pairwise_map.mp (long_strings_on_rising document length line tiled), ?_⟩
  refine List.pairwise_lt_range.imp fun {one other} less first here second there => ?_
  obtain ⟨token, _, rfl⟩ := List.mem_map.mp here
  obtain ⟨later, _, rfl⟩ := List.mem_map.mp there
  exact Prod.Lex.left _ _ less

theorem rising_apart (places : List (Nat × Nat)) (rising : places.Pairwise (Prod.Lex (· < ·) (· < ·))) : places.Nodup := by
  refine rising.imp fun {one other} before same => ?_
  rw [same, Prod.lex_def] at before
  omega

theorem is_free_iff (registry : FoldRegistry) (string : Nat × Token) :
    registry.isFree string = true ↔ placeOf string ∉ registry.folds.map fun entry => entry.2.place := by
  rw [FoldRegistry.isFree, Option.isNone_iff_eq_none, FoldRegistry.isFolded, Option.map_eq_none_iff, List.find?_eq_none,
    List.mem_map, not_exists]
  refine forall_congr' fun entry => ?_
  rw [not_and, decide_eq_true_eq, Fold.place, placeOf, Prod.mk.injEq]

theorem folds_for_places (registry : FoldRegistry) (strings : List (Nat × Token)) :
    ((registry.foldsFor strings).map fun entry => entry.2.place) = strings.map placeOf := by
  rw [FoldRegistry.foldsFor, List.map_map]
  calc
    (strings.zipIdx registry.nextId).map (placeOf ∘ Prod.fst) = ((strings.zipIdx registry.nextId).map Prod.fst).map placeOf :=
      List.map_map.symm
    _ = strings.map placeOf := by rw [List.zipIdx_map_fst]

theorem with_folds_free (registry : FoldRegistry) (strings : List (Nat × Token)) (string : Nat × Token) :
    (registry.withFolds strings).isFree string = true ↔
      registry.isFree string = true ∧ placeOf string ∉ strings.map placeOf := by
  rw [is_free_iff, is_free_iff, FoldRegistry.withFolds, List.map_append, folds_for_places, List.mem_append, not_or]

theorem folds_up_nothing (registry : FoldRegistry) (events : List FoldEvent) (silent : markCalls events = []) :
    registry.FoldsUp [] events registry :=
  ⟨by simp [FoldRegistry.withFolds, FoldRegistry.foldsFor], by rw [silent]; rfl⟩

theorem folds_up_append (before middle after : FoldRegistry) (first second : List (Nat × Token))
    (earlier later : List FoldEvent) (one : before.FoldsUp first earlier middle)
    (other : middle.FoldsUp second later after) : before.FoldsUp (first ++ second) (earlier ++ later) after := by
  obtain ⟨rfl, marked⟩ := one
  obtain ⟨rfl, markedToo⟩ := other
  constructor
  · simp [FoldRegistry.withFolds, FoldRegistry.foldsFor, List.zipIdx_append, Nat.add_assoc]
  · rw [markCalls, List.filter_append, ← markCalls, ← markCalls, marked, markedToo]
    simp [FoldRegistry.marksFor, FoldRegistry.withFolds, List.zipIdx_append, FoldRegistry.placeholder]

theorem fold_folds_up (registry : FoldRegistry) (line : Nat) (token : Token) :
    registry.FoldsUp ((if registry.isFoldable token then [(line, token)] else []).filter registry.isFree)
      (registry.fold line token).events (registry.fold line token).registry := by
  unfold FoldRegistry.fold
  by_cases long : registry.isFoldable token = true
  · rw [if_pos long, if_pos long]
    cases folded : registry.isFolded line token with
    | some id =>
        have taken : registry.isFree (line, token) = false := by rw [FoldRegistry.isFree, folded]; rfl
        rw [List.filter_singleton, taken]
        exact folds_up_nothing registry [] rfl
    | none =>
        have free : registry.isFree (line, token) = true := by rw [FoldRegistry.isFree, folded]; rfl
        rw [List.filter_singleton, free]
        exact ⟨rfl, rfl⟩
  · rw [if_neg long, if_neg long]
    exact folds_up_nothing registry [] rfl

theorem refresh_folds_up (registry : FoldRegistry) (document : Document) (line : Nat) :
    registry.FoldsUp [] (registry.refreshLine document line).events (registry.refreshLine document line).registry := by
  refine folds_up_nothing registry _ ?_
  unfold FoldRegistry.refreshLine FoldRegistry.gutterFor
  split
  · rfl
  · split <;> rfl

theorem for_each_folds_up {α β : Type} (registry : FoldRegistry) (step : FoldRegistry → α → FoldStep β)
    (strings : α → List (Nat × Token)) (elements : List α) (apart : ((elements.flatMap strings).map placeOf).Nodup)
    (single : ∀ current : FoldRegistry, current.options = registry.options → ∀ element ∈ elements,
      current.FoldsUp ((strings element).filter current.isFree) (step current element).events
        (step current element).registry) :
    registry.FoldsUp ((elements.flatMap strings).filter registry.isFree) (registry.forEach step elements).events
      (registry.forEach step elements).registry := by
  induction elements generalizing registry with
  | nil => exact folds_up_nothing registry [] rfl
  | cons element elements ih =>
      have first := single registry rfl element List.mem_cons_self
      rw [List.flatMap_cons, List.map_append, List.nodup_append'] at apart
      obtain ⟨_, later, disjoint⟩ := apart
      have options : (step registry element).registry.options = registry.options := by rw [first.registry]; rfl
      have rest := ih (step registry element).registry later fun current same other member =>
        single current (same.trans options) other (List.mem_cons_of_mem element member)
      -- What the first step folded stands elsewhere, so it leaves the others as free as they were.
      have free : (elements.flatMap strings).filter (step registry element).registry.isFree =
          (elements.flatMap strings).filter registry.isFree := by
        refine List.filter_congr fun string member => ?_
        rw [Bool.eq_iff_iff, first.registry, with_folds_free, and_iff_left]
        intro taken
        obtain ⟨other, present, same⟩ := List.mem_map.mp taken
        exact disjoint (List.mem_map.mpr ⟨other, (List.mem_filter.mp present).1, same⟩) (List.mem_map_of_mem member)
      rw [free] at rest
      rw [List.flatMap_cons, List.filter_append]
      exact folds_up_append registry _ _ _ _ _ _ first rest

theorem long_strings_on_tokens (registry : FoldRegistry) (document : Document) (line : Nat) :
    ((document.lineTokens line).flatMap fun token => if registry.isFoldable token then [(line, token)] else []) =
      document.longStringsOn registry.options.foldableLength line := by
  rw [Document.longStringsOn]
  induction document.lineTokens line with
  | nil => rfl
  | cons token tokens ih =>
      rw [List.flatMap_cons, ih]
      by_cases long : token.kind = some .string ∧ registry.options.foldableLength < token.text.length <;>
        simp [FoldRegistry.isFoldable, long]

theorem load_line_folds_up (registry : FoldRegistry) (document : Document) (line : Nat) (tiled : document.Tiled)
    (onLoad : registry.options.foldOnLoad = true) :
    registry.FoldsUp ((document.longStringsOn registry.options.foldableLength line).filter registry.isFree)
      (registry.loadLine document line).events (registry.loadLine document line).registry := by
  have apart := rising_apart _ (long_strings_on_rising document registry.options.foldableLength line tiled)
  rw [← long_strings_on_tokens] at apart ⊢
  have folded := for_each_folds_up registry (fun registry token => registry.fold line token) _ (document.lineTokens line)
    apart fun current same token _ => by
      have foldable : registry.isFoldable token = current.isFoldable token := by
        rw [FoldRegistry.isFoldable, FoldRegistry.isFoldable, same]
      rw [foldable]
      exact fold_folds_up current line token
  have whole := folds_up_append registry _ _ _ _ _ _ folded (refresh_folds_up _ document line)
  rw [List.append_nil] at whole
  simp only [FoldRegistry.loadLine, onLoad, if_true]
  exact whole

theorem load_folds_up (registry : FoldRegistry) (document : Document) (tiled : document.Tiled)
    (onLoad : registry.options.foldOnLoad = true) :
    registry.FoldsUp ((document.longStrings registry.options.foldableLength).filter registry.isFree)
      (registry.load document).events (registry.load document).registry := by
  have apart := rising_apart _ (long_strings_rising document registry.options.foldableLength tiled)
  refine for_each_folds_up registry _ _ (List.range document.lineCount) apart fun current same line _ => ?_
  rw [← same] at onLoad ⊢
  exact load_line_folds_up current document line tiled onLoad

theorem load_bare_folds_up (registry : FoldRegistry) (document : Document) (tiled : document.Tiled)
    (onLoad : registry.options.foldOnLoad = true) (bare : registry.folds = []) :
    registry.FoldsUp (document.longStrings registry.options.foldableLength) (registry.load document).events
      (registry.load document).registry := by
  have folded := load_folds_up registry document tiled onLoad
  have free (string : Nat × Token) : registry.isFree string = true := by
    rw [is_free_iff, bare]
    exact List.not_mem_nil
  rwa [List.filter_eq_self.mpr fun string _ => free string] at folded

def Command.foldedLine (options : FoldOptions) (string : Nat × Token) : Text :=
  Text.ofNat (string.1 + 1) ++ [':'] ++ Text.ofNat (string.2.start + 1) ++ ['-'] ++ Text.ofNat string.2.stop ++
    ['\t'] ++ FoldRegistry.placeholder { options } string.2

theorem fold_line_silent (event : FoldEvent) (gutter : (event.markedId.isSome || event.clearedId.isSome) = false) :
    Command.foldLine event = [] := by
  cases event with
  | mark id line start stop placeholder => cases gutter
  | clearMark id => rfl
  | setGutter line marker => rfl
  | clearGutter line => rfl

theorem listing_of_marks (events : List FoldEvent) :
    events.flatMap Command.foldLine = (markCalls events).flatMap Command.foldLine := by
  induction events with
  | nil => rfl
  | cons event events ih =>
      rw [List.flatMap_cons, ih]
      unfold markCalls
      rw [List.filter_cons]
      split
      · rw [List.flatMap_cons]
      · rename_i gutter
        rw [fold_line_silent event (by simpa using gutter), List.nil_append]

theorem folds_listing (settings : Settings) (source : Text) :
    Command.folds settings source =
      (((Command.openBuffer settings source).document.longStrings settings.folding.foldableLength).map
        (Command.foldedLine settings.folding)).flatMap fun line => line ++ ['\n'] := by
  let registry : FoldRegistry := { options := { settings.folding with foldOnLoad := true } }
  have tiled := fresh_document_tiled _ (of_text_fresh settings.lexer source)
  have folded := load_bare_folds_up registry _ tiled rfl rfl
  have listed (strings : List (Nat × Token)) : (registry.marksFor strings).flatMap Command.foldLine =
      (strings.map (Command.foldedLine settings.folding)).flatMap fun line => line ++ ['\n'] := by
    rw [FoldRegistry.marksFor, List.flatMap_map, List.flatMap_map]
    calc
      _ = (((strings.zipIdx registry.nextId).map Prod.fst).flatMap fun string =>
            Command.foldedLine settings.folding string ++ ['\n']) := (List.flatMap_map ..).symm
      _ = _ := by rw [List.zipIdx_map_fst]
  calc
    _ = (registry.load (Command.openBuffer settings source).document).events.flatMap Command.foldLine := rfl
    _ = _ := by rw [listing_of_marks, Command.openBuffer, folded.calls, listed]

theorem split_lines_unbroken (text : Text) : ∀ line ∈ splitLines text, '\n' ∉ line := by
  intro line member
  obtain ⟨piece, present, rfl⟩ := List.mem_map.mp member
  have absent := split_on_absent '\n' text piece present
  split
  · exact fun feed => absent (List.mem_of_mem_dropLast feed)
  · exact absent

theorem token_from_line (buffer : Buffer) (fresh : buffer.Fresh) (line : Nat) (token : Token)
    (present : token ∈ buffer.document.lineTokens line) : ∃ content ∈ buffer.lines, ∀ c ∈ token.text, c ∈ content := by
  rw [document_line_tokens] at present
  cases found : buffer.rows[line]? with
  | none =>
      rw [found] at present
      cases present
  | some row =>
      rw [found] at present
      have member := List.mem_of_getElem? found
      have tiles := fresh_document_tiled buffer fresh _ (List.mem_map_of_mem member)
      have text := tiles_text _ _ 0 _ tiles token present
      refine ⟨row.text, List.mem_map_of_mem member, fun c inside => ?_⟩
      rw [text, slice] at inside
      exact List.mem_of_mem_drop (List.mem_of_mem_take inside)

theorem folded_line_unbroken (settings : Settings) (source : Text) (string : Nat × Token) (length : Nat)
    (member : string ∈ (Command.openBuffer settings source).document.longStrings length) :
    '\n' ∉ Command.foldedLine settings.folding string := by
  obtain ⟨line, token⟩ := string
  obtain ⟨present, _⟩ := (long_strings_mem _ length line token).mp member
  have digits (n : Nat) : '\n' ∉ Text.ofNat n := fun feed => absurd (of_nat_digits n _ feed) (by decide)
  have unbroken : '\n' ∉ token.text := by
    obtain ⟨content, here, within⟩ := token_from_line _ (of_text_fresh settings.lexer source) line token present
    rw [of_text_lines] at here
    exact fun feed => split_lines_unbroken source content here (within _ feed)
  have placeholder : '\n' ∉ FoldRegistry.placeholder { options := settings.folding } token := by
    have head : '\n' ∉ token.text.take settings.folding.foldedLength := fun feed => unbroken (List.mem_of_mem_take feed)
    unfold FoldRegistry.placeholder
    split <;> simp [head]
  simp [Command.foldedLine, digits, placeholder]

theorem loaded_strings_folded_once (lexer : Lexer) (text : Text) (edits : List Edit) (registry : FoldRegistry)
    (bare : registry.folds = []) (onLoad : registry.options.foldOnLoad = true) :
    let document := ((Buffer.ofText lexer text).editAll edits).document
    let strings := document.longStrings registry.options.foldableLength
    let loaded := registry.load document
    let again := loaded.registry.load document
    (∀ line token, (line, token) ∈ strings ↔ token ∈ document.lineTokens line ∧ token.kind = some .string ∧
        registry.options.foldableLength < token.text.length) ∧
      (strings.map placeOf).Pairwise (Prod.Lex (· < ·) (· < ·)) ∧
      loaded.registry.folds = (strings.zipIdx registry.nextId).map (fun entry => (entry.2, Fold.ofString entry.1)) ∧
      again.registry = loaded.registry ∧ markCalls again.events = [] ∧
      ∀ settings source, Text.splitOn '\n' (Command.folds settings source) =
        ((Command.openBuffer settings source).document.longStrings settings.folding.foldableLength).map
          (Command.foldedLine settings.folding) ++ [[]] := by
  intro document strings loaded again
  have tiled : document.Tiled := fresh_document_tiled _ (edit_all_fresh _ edits (of_text_fresh lexer text))
  have folded : registry.FoldsUp strings loaded.events loaded.registry :=
    load_bare_folds_up registry document tiled onLoad bare
  have settled : loaded.registry.FoldsUp [] again.events again.registry := by
    have options : loaded.registry.options = registry.options := by rw [folded.registry]; rfl
    have later := load_folds_up loaded.registry document tiled (by rw [options, onLoad])
    have taken : strings.filter loaded.registry.isFree = [] := by
      rw [List.filter_eq_nil_iff]
      intro string member free
      rw [folded.registry, with_folds_free] at free
      exact free.2 (List.mem_map_of_mem member)
    rwa [options, taken] at later
  refine ⟨long_strings_mem document _, long_strings_rising document _ tiled, ?_, ?_, settled.calls, ?_⟩
  · rw [folded.registry, FoldRegistry.withFolds, bare]
    rfl
  · rw [settled.registry]
    simp [FoldRegistry.withFolds, FoldRegistry.foldsFor]
  · intro settings source
    rw [folds_listing, split_on_ended]
    intro line member
    obtain ⟨string, present, rfl⟩ := List.mem_map.mp member
    exact folded_line_unbroken settings source string _ present

theorem loaded_strings_folded_once_below_short :
    let lexer : Lexer := { vocabulary := Vocabulary.ofLists {} }
    let document := ((Buffer.ofText lexer "".toList).editAll [.setText "''\n'ab' '' \"c\"".toList]).document
    let registry : FoldRegistry := { options := { foldableLength := 2, foldOnLoad := true }, nextId := 7 }
    (registry.folds = [] ∧ registry.options.foldOnLoad = true) ∧
      (registry.load document).registry.folds =
        [(7, ⟨1, 0, 4, "'ab'".toList⟩), (8, ⟨1, 8, 11, "\"c\"".toList⟩)] ∧
      (let again := (registry.load document).registry.load document
      again.registry = (registry.load document).registry ∧ markCalls again.events = []) := by
  intro lexer document registry
  have folded := loaded_strings_folded_once lexer "".toList [.setText "''\n'ab' '' \"c\"".toList] registry rfl rfl
  have strings : document.longStrings 2 =
      [(1, ⟨some .string, "'ab'".toList, 0, 4⟩), (1, ⟨some .string, "\"c\"".toList, 8, 11⟩)] := by
    unfold document lexer
    cbv
  refine ⟨⟨rfl, rfl⟩, ?_, folded.2.2.2.1, folded.2.2.2.2.1⟩
  rw [folded.2.2.1]
  exact congrArg (fun strings => (List.zipIdx strings 7).map fun entry => (entry.2, Fold.ofString entry.1)) strings

end FilterAssist
