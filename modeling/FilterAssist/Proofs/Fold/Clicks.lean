import Mathlib
import FilterAssist.Proofs.Fold.Gutters
import FilterAssist.Proofs.Fold.Loading

set_option autoImplicit false

/-!
Clicks on the gutter. Without edits the folds have places of their own, so toggling a string takes out exactly the
fold that starts where the string starts, or adds one. A click therefore turns each long string of the line over
once and touches no other fold, and a second click gives the same places as before.
-/
namespace FilterAssist

def FoldRegistry.places (registry : FoldRegistry) : List (Nat × Nat) :=
  registry.folds.map fun entry => entry.2.place

def FoldRegistry.flipped (registry : FoldRegistry) (strings : List (Nat × Token)) : FoldRegistry :=
  withFolds { registry with folds := registry.folds.filter fun entry => decide (entry.2.place ∉ strings.map placeOf) }
    (strings.filter registry.isFree)

theorem flipped_places (registry : FoldRegistry) (strings : List (Nat × Token)) :
    (registry.flipped strings).places =
      (registry.places.filter fun place => decide (place ∉ strings.map placeOf)) ++
        (strings.filter registry.isFree).map placeOf := by
  rw [FoldRegistry.places, FoldRegistry.flipped, FoldRegistry.withFolds, List.map_append, folds_for_places,
    FoldRegistry.places, List.filter_map]
  rfl

theorem flipped_mem (registry : FoldRegistry) (strings : List (Nat × Token)) (place : Nat × Nat) :
    place ∈ (registry.flipped strings).places ↔
      if place ∈ strings.map placeOf then place ∉ registry.places else place ∈ registry.places := by
  rw [flipped_places, List.mem_append, List.mem_filter, decide_eq_true_eq]
  split
  · rename_i turned
    constructor
    · rintro (⟨_, other⟩ | added)
      · exact absurd turned other
      · obtain ⟨string, present, rfl⟩ := List.mem_map.mp added
        exact (is_free_iff registry string).mp (List.mem_filter.mp present).2
    · intro free
      obtain ⟨string, present, rfl⟩ := List.mem_map.mp turned
      exact .inr (List.mem_map_of_mem (List.mem_filter.mpr ⟨present, (is_free_iff registry string).mpr free⟩))
  · rename_i other
    constructor
    · rintro (⟨kept, _⟩ | added)
      · exact kept
      · exact absurd ((List.filter_sublist.map placeOf).subset added) other
    · exact fun kept => .inl ⟨kept, other⟩

theorem flipped_free (registry : FoldRegistry) (strings : List (Nat × Token)) (string : Nat × Token) :
    (registry.flipped strings).isFree string = true ↔
      if placeOf string ∈ strings.map placeOf then registry.isFree string = false else registry.isFree string = true := by
  rw [is_free_iff, ← FoldRegistry.places, flipped_mem, ← Bool.not_eq_true, is_free_iff, ← FoldRegistry.places]
  split
  · rfl
  · rfl

theorem removed_place (registry : FoldRegistry) (entry : Nat × Fold) (issued : registry.Issued)
    (unique : registry.Unique) (member : entry ∈ registry.folds) :
    (registry.folds.filter fun other => other.1 != entry.1) =
      registry.folds.filter fun other => decide (other.2.place ≠ entry.2.place) := by
  refine List.filter_congr fun other present => ?_
  rw [Bool.eq_iff_iff, bne_iff_ne, decide_eq_true_eq]
  constructor
  · intro named same
    exact named (congrArg Prod.fst (List.inj_on_of_nodup_map unique present member same))
  · intro placed same
    have whole : other = entry := List.inj_on_of_nodup_map (issued_distinct registry issued) present member same
    exact placed (by rw [whole])

theorem toggle_flipped (registry : FoldRegistry) (line : Nat) (token : Token) (issued : registry.Issued)
    (unique : registry.Unique) (long : registry.isFoldable token = true) :
    (registry.toggle line token).registry = registry.flipped [(line, token)] := by
  cases folded : registry.isFolded line token with
  | none =>
      have free : registry.isFree (line, token) = true := by rw [FoldRegistry.isFree, folded]; rfl
      have others : (registry.folds.filter fun entry => decide (entry.2.place ∉ [(line, token)].map placeOf)) =
          registry.folds := by
        rw [List.filter_eq_self]
        intro entry member
        rw [decide_eq_true_eq, List.map_singleton, List.mem_singleton]
        intro same
        exact (is_free_iff registry _).mp free (List.mem_map.mpr ⟨entry, member, same⟩)
      have step := (fold_folds_up registry line token).registry
      rw [if_pos long] at step
      rw [FoldRegistry.flipped, others, FoldRegistry.toggle, FoldRegistry.unfold, folded]
      exact step
  | some id =>
      have taken : registry.isFree (line, token) = false := by rw [FoldRegistry.isFree, folded]; rfl
      obtain ⟨entry, found, rfl⟩ := Option.map_eq_some_iff.mp folded
      have member := List.mem_of_find?_eq_some found
      have here := List.find?_some found
      rw [decide_eq_true_eq] at here
      have place : entry.2.place = placeOf (line, token) := Prod.ext here.1 here.2
      have named : (registry.folds.find? fun other => other.1 == entry.1).isSome = true := by
        rw [List.find?_isSome]
        exact ⟨entry, member, beq_self_eq_true _⟩
      obtain ⟨other, again⟩ := Option.isSome_iff_exists.mp named
      have rest := removed_place registry entry issued unique member
      rw [place] at rest
      simp [FoldRegistry.toggle, FoldRegistry.unfold, FoldRegistry.remove, FoldRegistry.flipped, FoldRegistry.withFolds,
        FoldRegistry.foldsFor, folded, again, taken, rest]

theorem flipped_cons (registry : FoldRegistry) (string : Nat × Token) (strings : List (Nat × Token))
    (apart : placeOf string ∉ strings.map placeOf) :
    (registry.flipped [string]).flipped strings = registry.flipped (string :: strings) := by
  have later : strings.filter (registry.flipped [string]).isFree = strings.filter registry.isFree := by
    refine List.filter_congr fun other member => ?_
    have different : placeOf other ∉ [string].map placeOf := by
      rw [List.map_singleton, List.mem_singleton]
      intro same
      exact apart (by rw [← same]; exact List.mem_map_of_mem member)
    rw [Bool.eq_iff_iff, flipped_free, if_neg different]
  have stays : ∀ entry ∈ FoldRegistry.foldsFor registry ([string].filter registry.isFree),
      decide (entry.2.place ∉ strings.map placeOf) = true := by
    intro entry member
    have place : entry.2.place ∈ ([string].filter registry.isFree).map placeOf := by
      rw [← folds_for_places registry]
      exact List.mem_map_of_mem member
    have same := (List.filter_sublist.map placeOf).subset place
    rw [List.map_singleton, List.mem_singleton] at same
    rw [decide_eq_true_eq, same]
    exact apart
  have kept : ((registry.flipped [string]).folds.filter fun entry => decide (entry.2.place ∉ strings.map placeOf)) =
      (registry.folds.filter fun entry => decide (entry.2.place ∉ (string :: strings).map placeOf)) ++
        registry.foldsFor ([string].filter registry.isFree) := by
    rw [FoldRegistry.flipped, FoldRegistry.withFolds, List.filter_append, List.filter_filter,
      ← List.filter_eq_self.mpr stays]
    congr 1
    refine List.filter_congr fun entry _ => ?_
    rw [Bool.eq_iff_iff]
    simp [and_comm]
  have split : (string :: strings).filter registry.isFree =
      [string].filter registry.isFree ++ strings.filter registry.isFree := by
    rw [← List.filter_append, List.singleton_append]
  rw [FoldRegistry.flipped, later, kept, FoldRegistry.flipped, FoldRegistry.flipped, split]
  simp [FoldRegistry.withFolds, FoldRegistry.foldsFor, List.zipIdx_append, Nat.add_assoc]

theorem for_each_flipped (registry : FoldRegistry) (line : Nat) (tokens : List Token) (issued : registry.Issued)
    (unique : registry.Unique) (long : ∀ token ∈ tokens, registry.isFoldable token = true)
    (apart : ((tokens.map (Prod.mk line)).map placeOf).Nodup) :
    (registry.forEach (fun registry token => registry.toggle line token) tokens).registry =
      registry.flipped (tokens.map (Prod.mk line)) := by
  induction tokens generalizing registry with
  | nil => simp [FoldRegistry.forEach, FoldRegistry.flipped, FoldRegistry.withFolds, FoldRegistry.foldsFor]
  | cons token tokens ih =>
      have first := toggle_flipped registry line token issued unique (long token List.mem_cons_self)
      have issuedToo := mirrored_issued registry _ _ (toggle_mirrored registry line token issued) issued
      have uniqueToo := refolded_unique registry _ (toggle_refolded registry line token) unique
      have options := refolded_options registry _ (toggle_refolded registry line token)
      rw [List.map_cons, List.map_cons, List.nodup_cons] at apart
      have rest := ih (registry.toggle line token).registry issuedToo uniqueToo (fun other member => by
        have foldable := long other (List.mem_cons_of_mem token member)
        rwa [FoldRegistry.isFoldable, options, ← FoldRegistry.isFoldable]) apart.2
      rw [FoldRegistry.forEach, rest, first, List.map_cons]
      exact flipped_cons registry _ _ apart.1

theorem gutter_click_flipped (registry : FoldRegistry) (document : Document) (line : Nat) (tiled : document.Tiled)
    (issued : registry.Issued) (unique : registry.Unique) :
    (registry.gutterClick document line).registry =
      registry.flipped (document.longStringsOn registry.options.foldableLength line) := by
  have long : document.longStringsOn registry.options.foldableLength line =
      ((document.lineTokens line).filter registry.isFoldable).map (Prod.mk line) := by
    refine congrArg (List.map (Prod.mk line)) (List.filter_congr fun token _ => ?_)
    rw [FoldRegistry.isFoldable, Bool.decide_and]
  have apart := rising_apart _ (long_strings_on_rising document registry.options.foldableLength line tiled)
  rw [long] at apart ⊢
  exact for_each_flipped registry line _ issued unique (fun token member => (List.mem_filter.mp member).2) apart

theorem steady_calls_refolded (registry : FoldRegistry) (calls : List FoldCall)
    (steady : ∀ call ∈ calls, call.isChange = false) :
    Refolded registry (registry.forEach FoldRegistry.call calls).registry := by
  induction calls generalizing registry with
  | nil => exact .unchanged
  | cons call calls ih =>
      obtain ⟨first, later⟩ := List.forall_mem_cons.mp steady
      exact refolded_trans registry _ _ (steady_call_refolded registry call first) (ih _ later)

theorem gutter_click_flips_line (lexer : Lexer) (text : Text) (edits : List Edit) (options : FoldOptions)
    (calls : List FoldCall) (line : Nat) (steady : ∀ call ∈ calls, call.isChange = false) :
    let document := ((Buffer.ofText lexer text).editAll edits).document
    let registry := (FoldRegistry.forEach { options } FoldRegistry.call calls).registry
    let clicked := (registry.gutterClick document line).registry
    let twice := (clicked.gutterClick document line).registry
    let strings := document.longStringsOn options.foldableLength line
    (∀ token, (line, token) ∈ strings →
        ((clicked.isFolded line token).isSome = true ↔ registry.isFolded line token = none)) ∧
      (∀ entry : Nat × Fold, entry.2.place ∉ strings.map placeOf →
        (entry ∈ clicked.folds ↔ entry ∈ registry.folds)) ∧
      ∀ place, place ∈ twice.places ↔ place ∈ registry.places := by
  intro document registry clicked twice strings
  have tiled : document.Tiled := fresh_document_tiled _ (edit_all_fresh _ edits (of_text_fresh lexer text))
  have refolded := steady_calls_refolded { options } calls steady
  have issued : registry.Issued := mirrored_issued _ _ _ (calls_mirrored options calls) (empty_issued options)
  have unique : registry.Unique := refolded_unique _ _ refolded List.nodup_nil
  have flips (current : FoldRegistry) (same : current.options = options) (issued : current.Issued)
      (unique : current.Unique) : (current.gutterClick document line).registry = current.flipped strings := by
    have turned := gutter_click_flipped current document line tiled issued unique
    rwa [same] at turned
  have once : clicked = registry.flipped strings := flips registry (refolded_options _ _ refolded) issued unique
  have again : twice = clicked.flipped strings := by
    have more := refolded_trans _ _ _ refolded (gutter_click_refolded registry document line)
    exact flips clicked (refolded_options _ _ more)
      (mirrored_issued _ _ _ (gutter_click_mirrored registry document line issued) issued)
      (refolded_unique _ _ more List.nodup_nil)
  refine ⟨fun token member => ?_, fun entry other => ?_, fun place => ?_⟩
  · have turned := flipped_free registry strings (line, token)
    rw [if_pos (List.mem_map_of_mem member), ← once] at turned
    rw [← Option.not_isNone, ← Option.isNone_iff_eq_none, Bool.not_eq_true']
    change clicked.isFree (line, token) = false ↔ registry.isFree (line, token) = true
    rw [← Bool.not_eq_true, turned, Bool.not_eq_false]
  · rw [once, FoldRegistry.flipped, FoldRegistry.withFolds, List.mem_append, List.mem_filter, decide_eq_true_eq]
    constructor
    · rintro (⟨kept, _⟩ | added)
      · exact kept
      · have place := List.mem_map_of_mem (f := fun entry : Nat × Fold => entry.2.place) added
        rw [folds_for_places] at place
        exact absurd ((List.filter_sublist.map placeOf).subset place) other
    · exact fun kept => .inl ⟨kept, other⟩
  · rw [again, flipped_mem, once, flipped_mem]
    split
    · exact not_not
    · rfl

theorem gutter_click_flips_line_half_folded :
    let lexer : Lexer := { vocabulary := Vocabulary.ofLists {} }
    let document := ((Buffer.ofText lexer "'ab' 'c'".toList).editAll []).document
    let first : Token := ⟨some .string, "'ab'".toList, 0, 4⟩
    let second : Token := ⟨some .string, "'c'".toList, 5, 8⟩
    let stray : Token := ⟨some .string, "b' 'c".toList, 2, 7⟩
    let calls : List FoldCall := [.fold 0 first, .fold 0 stray]
    let registry := (FoldRegistry.forEach { options := { foldableLength := 2 } } FoldRegistry.call calls).registry
    let clicked := (registry.gutterClick document 0).registry
    (∀ call ∈ calls, call.isChange = false) ∧ document.longStringsOn 2 0 = [(0, first), (0, second)] ∧
      registry.places = [(0, 0), (0, 2)] ∧
      ((clicked.isFolded 0 first).isSome = true ↔ registry.isFolded 0 first = none) ∧
      ((clicked.isFolded 0 second).isSome = true ↔ registry.isFolded 0 second = none) ∧
      (1, Fold.ofString (0, stray)) ∈ clicked.folds ∧
      ∀ place, place ∈ (clicked.gutterClick document 0).registry.places ↔ place ∈ registry.places := by
  intro lexer document first second stray calls registry clicked
  have steady : ∀ call ∈ calls, call.isChange = false := by simp [calls, FoldCall.isChange]
  have strings : document.longStringsOn 2 0 = [(0, first), (0, second)] := by
    unfold document lexer first second
    cbv
  have folds : registry.folds = [(0, Fold.ofString (0, first)), (1, Fold.ofString (0, stray))] := by decide +kernel
  have strayed : (1, Fold.ofString (0, stray)) ∈ registry.folds := by rw [folds]; simp
  obtain ⟨flips, others, back⟩ :=
    gutter_click_flips_line lexer "'ab' 'c'".toList [] { foldableLength := 2 } calls 0 steady
  have here (token : Token) (member : token = first ∨ token = second) : (0, token) ∈ document.longStringsOn 2 0 := by
    rw [strings]
    rcases member with rfl | rfl <;> simp
  refine ⟨steady, strings, by rw [FoldRegistry.places, folds]; rfl, flips first (here first (.inl rfl)),
    flips second (here second (.inr rfl)), ?_, back⟩
  refine (others (1, Fold.ofString (0, stray)) ?_).mpr strayed
  change _ ∉ (document.longStringsOn 2 0).map placeOf
  rw [strings]
  decide

end FilterAssist
