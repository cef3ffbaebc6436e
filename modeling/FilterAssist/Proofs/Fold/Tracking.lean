import Mathlib.Data.List.Permutation
import FilterAssist.Fold
import FilterAssist.Proofs.Buffer.RelexedRange

set_option autoImplicit false

/-!
Folds follow their strings through an edit. The rows outside the range that an edit reports are the
old ones, so a fold there moves with its row; inside the range it is looked up again or dropped.
-/
namespace FilterAssist

def Fold.Marks (fold : Fold) (document : Document) : Prop :=
  ⟨some .string, fold.text, fold.start, fold.stop⟩ ∈ document.lineTokens fold.line

instance (fold : Fold) (document : Document) : Decidable (fold.Marks document) :=
  inferInstanceAs (Decidable (_ ∈ _))

def FoldRegistry.Marked (registry : FoldRegistry) (document : Document) : Prop :=
  ∀ entry ∈ registry.folds, entry.2.Marks document

instance (registry : FoldRegistry) (document : Document) : Decidable (registry.Marked document) :=
  inferInstanceAs (Decidable (∀ _ ∈ _, _))

def FoldRegistry.Keyed (registry : FoldRegistry) : Prop :=
  ∀ id first second, (id, first) ∈ registry.folds → (id, second) ∈ registry.folds → first = second

theorem moved_fold_above (document : Document) (start stop : Nat) (delta : Int) (fold : Fold)
    (above : fold.line < start) : FoldRegistry.movedFold document start stop delta fold = some fold :=
  if_pos above

theorem moved_fold_cases (document : Document) (start stop : Nat) (delta : Int) (fold moved : Fold)
    (kept : FoldRegistry.movedFold document start stop delta fold = some moved) :
    (fold.line < start ∧ moved = fold) ∨
      (start ≤ fold.line ∧ (stop : Int) - delta < fold.line ∧
        moved = { fold with line := ((fold.line : Int) + delta).toNat }) ∨
      (start ≤ fold.line ∧ (fold.line : Int) ≤ stop - delta ∧ fold.line ≤ stop ∧
        ∃ token, ((document.lineTokens fold.line).find? fun token =>
            decide (token.kind = some .string ∧ token.text = fold.text)) = some token ∧
          moved = { fold with start := token.start, stop := token.stop }) := by
  unfold FoldRegistry.movedFold at kept
  split at kept
  · rename_i above
    exact .inl ⟨above, (Option.some.inj kept).symm⟩
  · rename_i above
    split at kept
    · rename_i below
      exact .inr (.inl ⟨Nat.not_lt.mp above, below, (Option.some.inj kept).symm⟩)
    · rename_i below
      split at kept
      · rename_i within
        obtain ⟨token, found, moves⟩ := Option.map_eq_some_iff.mp kept
        exact .inr (.inr ⟨Nat.not_lt.mp above, Int.not_lt.mp below, within, token, found, moves.symm⟩)
      · cases kept

theorem relexed_below_iff (old new : Buffer) (range : LineRange) (resumed line : Nat)
    (relexed : Relexed old.rows new.rows range resumed) :
    ((range.stop - 1 : Nat) : Int) - ((new.document.lineCount : Int) - old.document.lineCount) < line ↔
      resumed ≤ line := by
  have reached := relexed.reached
  have count := relexed.count
  rw [document_line_count, document_line_count]
  omega

theorem found_fold_marks (document : Document) (fold : Fold) (token : Token)
    (found : ((document.lineTokens fold.line).find? fun token =>
      decide (token.kind = some .string ∧ token.text = fold.text)) = some token) :
    Fold.Marks { fold with start := token.start, stop := token.stop } document := by
  have accepted := List.find?_some found
  rw [decide_eq_true_eq] at accepted
  obtain ⟨kind, text⟩ := accepted
  have member := List.mem_of_find?_eq_some found
  rw [Fold.Marks]
  dsimp only
  rw [← kind, ← text]
  exact member

theorem relexed_above_marks (old new : Buffer) (range : LineRange) (resumed : Nat) (fold : Fold)
    (relexed : Relexed old.rows new.rows range resumed) (marks : fold.Marks old.document)
    (above : fold.line < range.start) : fold.Marks new.document := by
  rw [Fold.Marks, document_line_tokens, relexed.above fold.line above, ← document_line_tokens]
  exact marks

theorem relexed_below_marks (old new : Buffer) (range : LineRange) (resumed line : Nat) (fold : Fold)
    (relexed : Relexed old.rows new.rows range resumed) (marks : fold.Marks old.document)
    (below : resumed ≤ fold.line) (moved : line + resumed = fold.line + range.stop) :
    Fold.Marks { fold with line := line } new.document := by
  obtain ⟨offset, place⟩ := Nat.exists_eq_add_of_le below
  have target : line = range.stop + offset := by omega
  rw [Fold.Marks, document_line_tokens]
  dsimp only
  rw [target, relexed.below offset, ← place, ← document_line_tokens]
  exact marks

theorem moved_fold_marks (old new : Buffer) (range : LineRange) (resumed : Nat) (fold moved : Fold)
    (relexed : Relexed old.rows new.rows range resumed) (marks : fold.Marks old.document)
    (kept : FoldRegistry.movedFold new.document range.start (range.stop - 1)
      ((new.document.lineCount : Int) - old.document.lineCount) fold = some moved) :
    moved.Marks new.document := by
  rcases moved_fold_cases new.document _ _ _ fold moved kept with
    ⟨above, rfl⟩ | ⟨_, past, rfl⟩ | ⟨_, _, _, token, found, rfl⟩
  · exact relexed_above_marks old new range resumed moved relexed marks above
  · have below := (relexed_below_iff old new range resumed fold.line relexed).mp past
    have count := relexed.count
    refine relexed_below_marks old new range resumed _ fold relexed marks below ?_
    rw [document_line_count, document_line_count]
    omega
  · exact found_fold_marks new.document fold token found

theorem remove_folds (registry : FoldRegistry) (id : Nat) :
    (registry.remove id).registry.folds = registry.folds.filter fun entry => entry.1 != id := by
  unfold FoldRegistry.remove
  split
  · rename_i absent
    refine (List.filter_eq_self.mpr (fun entry member => ?_)).symm
    have different := List.find?_eq_none.mp absent entry member
    simpa using different
  · rfl

theorem remove_all_folds (registry : FoldRegistry) (ids : List Nat) :
    (registry.forEach FoldRegistry.remove ids).registry.folds =
      registry.folds.filter fun entry => decide (entry.1 ∉ ids) := by
  induction ids generalizing registry with
  | nil => exact (List.filter_eq_self.mpr (fun _ _ => decide_eq_true List.not_mem_nil)).symm
  | cons id ids ih =>
      rw [FoldRegistry.forEach]
      dsimp only
      rw [ih, remove_folds, List.filter_filter]
      refine List.filter_congr (fun entry _ => ?_)
      rw [Bool.eq_iff_iff]
      simp only [Bool.and_eq_true, decide_eq_true_eq, bne_iff_ne, List.mem_cons, not_or]
      exact and_comm

theorem refresh_all_registry (registry : FoldRegistry) (document : Document) (lines : List Nat) :
    (registry.forEach (fun registry line => registry.refreshLine document line) lines).registry = registry := by
  induction lines with
  | nil => rfl
  | cons line lines ih => exact ih

theorem on_change_mem (registry : FoldRegistry) (document : Document) (start stop : Nat) (delta : Int)
    (id : Nat) (fold : Fold) :
    (id, fold) ∈ (registry.onChange document start stop delta).registry.folds ↔
      (∃ old, (id, old) ∈ registry.folds ∧ FoldRegistry.movedFold document start stop delta old = some fold) ∧
        ∀ old, (id, old) ∈ registry.folds → FoldRegistry.movedFold document start stop delta old ≠ none := by
  simp only [FoldRegistry.onChange, refresh_all_registry, remove_all_folds, List.mem_filter, List.mem_map,
    decide_eq_true_eq, Option.isNone_iff_eq_none]
  constructor
  · rintro ⟨⟨⟨other, old⟩, present, same⟩, clean⟩
    obtain ⟨rfl, moved⟩ := Prod.mk.inj same
    have survives : ∀ old, (other, old) ∈ registry.folds →
        FoldRegistry.movedFold document start stop delta old ≠ none := by
      intro old member gone
      exact clean ⟨(other, old), ⟨member, gone⟩, rfl⟩
    refine ⟨⟨old, present, ?_⟩, survives⟩
    obtain ⟨target, targetEq⟩ := Option.ne_none_iff_exists'.mp (survives old present)
    rw [targetEq] at moved ⊢
    exact congrArg some moved
  · rintro ⟨⟨old, present, moved⟩, survives⟩
    refine ⟨⟨(id, old), present, by rw [moved]; rfl⟩, ?_⟩
    rintro ⟨⟨other, gone⟩, ⟨member, lost⟩, rfl⟩
    exact survives gone member lost

theorem on_change_keeps (registry : FoldRegistry) (document : Document) (start stop : Nat) (delta : Int)
    (id : Nat) (old fold : Fold) (keyed : registry.Keyed) (present : (id, old) ∈ registry.folds)
    (moved : FoldRegistry.movedFold document start stop delta old = some fold) :
    (id, fold) ∈ (registry.onChange document start stop delta).registry.folds := by
  refine (on_change_mem registry document start stop delta id fold).mpr ⟨⟨old, present, moved⟩, ?_⟩
  intro other member lost
  rw [keyed id other old member present, moved] at lost
  cases lost

theorem moved_fold_below (old new : Buffer) (range : LineRange) (resumed : Nat) (fold : Fold)
    (relexed : Relexed old.rows new.rows range resumed)
    (below : range.stop + old.document.lineCount ≤ fold.line + new.document.lineCount)
    (outside : ¬ fold.line < range.start) :
    FoldRegistry.movedFold new.document range.start (range.stop - 1)
        ((new.document.lineCount : Int) - old.document.lineCount) fold =
      some { fold with line := fold.line + new.document.lineCount - old.document.lineCount } := by
  have count := relexed.count
  have past : resumed ≤ fold.line := by
    rw [document_line_count, document_line_count] at below
    omega
  have target : ((fold.line : Int) + ((new.document.lineCount : Int) - old.document.lineCount)).toNat =
      fold.line + new.document.lineCount - old.document.lineCount := by
    omega
  rw [FoldRegistry.movedFold, if_neg outside,
    if_pos ((relexed_below_iff old new range resumed fold.line relexed).mpr past), target]

theorem folds_follow_edit (buffer : Buffer) (range : LineRange) (texts : List Text) (registry : FoldRegistry)
    (marked : registry.Marked buffer.document) :
    let edited := (buffer.replaceLines range texts).1.document
    let relexed := (buffer.replaceLines range texts).2
    let delta := (edited.lineCount : Int) - buffer.document.lineCount
    let updated := (registry.onChange edited relexed.start (relexed.stop - 1) delta).registry
    0 < relexed.stop ∧
      updated.Marked edited ∧
      (registry.Keyed → ∀ id fold, (id, fold) ∈ registry.folds →
        (fold.line < relexed.start → (id, fold) ∈ updated.folds) ∧
          (relexed.start ≤ fold.line → relexed.stop + buffer.document.lineCount ≤ fold.line + edited.lineCount →
            (id, { fold with line := fold.line + edited.lineCount - buffer.document.lineCount }) ∈ updated.folds)) := by
  intro edited relexed delta updated
  obtain ⟨resumed, rows⟩ := replace_lines_relexed buffer range texts
  refine ⟨rows.reached, ?_, ?_⟩
  · rintro ⟨id, fold⟩ member
    obtain ⟨⟨old, present, moved⟩, _⟩ := (on_change_mem registry edited _ _ delta id fold).mp member
    exact moved_fold_marks buffer _ relexed resumed old fold rows (marked (id, old) present) moved
  · intro keyed id fold present
    constructor
    · intro above
      exact on_change_keeps registry edited _ _ delta id fold fold keyed present
        (moved_fold_above edited _ _ delta fold above)
    · intro outside below
      exact on_change_keeps registry edited _ _ delta id fold _ keyed present
        (moved_fold_below buffer _ relexed resumed fold rows below (Nat.not_lt.mpr outside))

theorem folds_follow_edit_around_splice :
    let lexer : Lexer := { vocabulary := Vocabulary.ofLists {} }
    let buffer := Buffer.ofText lexer "'a'\n'b'\n'c'\n'd'".toList
    let registry : FoldRegistry :=
      ⟨{}, [(0, ⟨0, 0, 3, "'a'".toList⟩), (1, ⟨1, 0, 3, "'b'".toList⟩), (2, ⟨2, 0, 3, "'c'".toList⟩),
        (3, ⟨3, 0, 3, "'d'".toList⟩)], 4⟩
    let edited := (buffer.replaceLines ⟨1, 3⟩ [" 'b'".toList, "''".toList, "'e'".toList]).1.document
    let relexed := (buffer.replaceLines ⟨1, 3⟩ [" 'b'".toList, "''".toList, "'e'".toList]).2
    let delta := (edited.lineCount : Int) - buffer.document.lineCount
    let updated := (registry.onChange edited relexed.start (relexed.stop - 1) delta).registry
    registry.Marked buffer.document ∧ registry.Keyed ∧ updated.Marked edited ∧
      (0, ⟨0, 0, 3, "'a'".toList⟩) ∈ updated.folds ∧ (3, ⟨4, 0, 3, "'d'".toList⟩) ∈ updated.folds := by
  intro lexer buffer registry edited relexed delta updated
  have marked : registry.Marked buffer.document := of_decide_eq_true (by cbv)
  have keyed : registry.Keyed := by
    intro id first second
    simp only [registry, List.mem_cons, List.not_mem_nil, or_false, Prod.mk.injEq]
    grind
  have shift : 3 + edited.lineCount - buffer.document.lineCount = 4 := by cbv
  obtain ⟨_, follows, kept⟩ := folds_follow_edit buffer ⟨1, 3⟩ [" 'b'".toList, "''".toList, "'e'".toList] registry marked
  have above := (kept keyed 0 ⟨0, 0, 3, "'a'".toList⟩ (by simp [registry])).1 (by cbv)
  have below := (kept keyed 3 ⟨3, 0, 3, "'d'".toList⟩ (by simp [registry])).2 (by cbv) (by cbv)
  dsimp only at below
  rw [shift] at below
  exact ⟨marked, keyed, follows, above, below⟩

end FilterAssist
