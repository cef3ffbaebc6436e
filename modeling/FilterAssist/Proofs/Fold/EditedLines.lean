import Mathlib
import FilterAssist.Proofs.Fold.Tracking

set_option autoImplicit false

/-!
Reporting only the lines that were put in. An edit can change the tokens of lines further down, by
opening or closing a string or a comment. Folds on those lines are moved with them unseen, so the
folds are right after such a report exactly when the strings on those lines are still there.
-/
namespace FilterAssist

theorem edited_lines_relexed (buffer : Buffer) (range : LineRange) (texts : List Text)
    (ordered : range.start ≤ range.stop) (inside : range.stop ≤ buffer.document.lineCount) (filled : texts ≠ []) :
    (buffer.replaceLines range texts).2.start = range.start ∧
      range.start + texts.length ≤ (buffer.replaceLines range texts).2.stop ∧
      (buffer.replaceLines range texts).1.document.lineCount + range.stop =
        buffer.document.lineCount + range.start + texts.length := by
  rw [document_line_count] at inside
  have clipped : range.clip buffer.rows.length = range := by
    rw [LineRange.clip, Nat.min_eq_left inside, Nat.min_eq_left ordered]
  have count := replace_lines_count buffer range texts filled
  have result := replace_lines_filled buffer range texts filled
  rw [clipped] at count result
  refine ⟨by rw [result], ?_, ?_⟩
  · rw [result]
    exact Nat.le_add_right _ _
  · rw [document_line_count, document_line_count]
    exact count

def Fold.shifted (fold : Fold) (range : LineRange) (texts : List Text) : Fold :=
  { fold with line := fold.line + texts.length - (range.stop - range.start) }

-- A fold below the range, on a line whose text stays but whose tokens are new.
def Fold.Swept (fold : Fold) (range : LineRange) (texts : List Text) (relexed : LineRange) : Prop :=
  range.stop ≤ fold.line ∧ (fold.shifted range texts).line < relexed.stop

instance (fold : Fold) (range : LineRange) (texts : List Text) (relexed : LineRange) :
    Decidable (fold.Swept range texts relexed) :=
  inferInstanceAs (Decidable (_ ∧ _))

def FoldRegistry.reportEdited (registry : FoldRegistry) (document : Document) (range : LineRange) (texts : List Text) :
    FoldRegistry :=
  (registry.onChange document range.start (range.start + texts.length - 1)
    ((texts.length : Int) - (range.stop - range.start : Nat))).registry

theorem moved_fold_shifted (document : Document) (range : LineRange) (texts : List Text) (fold : Fold)
    (ordered : range.start ≤ range.stop) (filled : texts ≠ []) (below : range.stop ≤ fold.line) :
    FoldRegistry.movedFold document range.start (range.start + texts.length - 1)
      ((texts.length : Int) - (range.stop - range.start : Nat)) fold = some (fold.shifted range texts) := by
  have some := List.length_pos_iff.mpr filled
  have outside : ¬ fold.line < range.start := by omega
  have past : ((range.start + texts.length - 1 : Nat) : Int) - ((texts.length : Int) - (range.stop - range.start : Nat)) <
      fold.line := by omega
  have target : ((fold.line : Int) + ((texts.length : Int) - (range.stop - range.start : Nat))).toNat =
      fold.line + texts.length - (range.stop - range.start) := by omega
  rw [FoldRegistry.movedFold, if_neg outside, if_pos past, target]
  rfl

theorem moved_fold_marks_unless_swept (buffer : Buffer) (range : LineRange) (texts : List Text) (fold moved : Fold)
    (ordered : range.start ≤ range.stop) (inside : range.stop ≤ buffer.document.lineCount) (filled : texts ≠ [])
    (marks : fold.Marks buffer.document)
    (kept : FoldRegistry.movedFold (buffer.replaceLines range texts).1.document range.start
      (range.start + texts.length - 1) ((texts.length : Int) - (range.stop - range.start : Nat)) fold = some moved) :
    moved.Marks (buffer.replaceLines range texts).1.document ∨
      (fold.Swept range texts (buffer.replaceLines range texts).2 ∧ moved = fold.shifted range texts) := by
  obtain ⟨starts, reaches, count⟩ := edited_lines_relexed buffer range texts ordered inside filled
  obtain ⟨resumed, relexed⟩ := replace_lines_relexed buffer range texts
  have rows := relexed.count
  rw [document_line_count, document_line_count] at count
  by_cases below : range.stop ≤ fold.line
  · rw [moved_fold_shifted _ range texts fold ordered filled below] at kept
    cases kept
    by_cases settled : resumed ≤ fold.line
    · left
      refine relexed_below_marks buffer _ _ resumed _ fold relexed marks settled ?_
      omega
    · right
      refine ⟨⟨below, ?_⟩, rfl⟩
      rw [Fold.shifted]
      dsimp only
      omega
  · left
    rcases moved_fold_cases _ _ _ _ fold moved kept with
      ⟨above, rfl⟩ | ⟨_, past, _⟩ | ⟨_, _, _, token, found, rfl⟩
    · exact relexed_above_marks buffer _ _ resumed moved relexed marks (by omega)
    · omega
    · exact found_fold_marks _ fold token found

theorem edited_lines_report_marked (buffer : Buffer) (range : LineRange) (texts : List Text)
    (registry : FoldRegistry) (ordered : range.start ≤ range.stop) (inside : range.stop ≤ buffer.document.lineCount)
    (filled : texts ≠ []) (marked : registry.Marked buffer.document) :
    let edited := (buffer.replaceLines range texts).1.document
    let relexed := (buffer.replaceLines range texts).2
    let updated := registry.reportEdited edited range texts
    ((∀ entry ∈ registry.folds, entry.2.Swept range texts relexed → (entry.2.shifted range texts).Marks edited) →
        updated.Marked edited) ∧
      (relexed.stop = range.start + texts.length → updated.Marked edited) ∧
      (registry.Keyed → updated.Marked edited →
        ∀ entry ∈ registry.folds, entry.2.Swept range texts relexed → (entry.2.shifted range texts).Marks edited) := by
  intro edited relexed updated
  have right : (∀ entry ∈ registry.folds, entry.2.Swept range texts relexed →
      (entry.2.shifted range texts).Marks edited) → updated.Marked edited := by
    rintro still ⟨id, fold⟩ member
    obtain ⟨⟨old, present, moved⟩, _⟩ := (on_change_mem registry edited _ _ _ id fold).mp member
    rcases moved_fold_marks_unless_swept buffer range texts old fold ordered inside filled (marked (id, old) present)
      moved with marks | ⟨swept, rfl⟩
    · exact marks
    · exact still (id, old) present swept
  refine ⟨right, fun converged => right (fun entry _ swept => ?_), fun keyed follows entry member swept => ?_⟩
  · obtain ⟨below, early⟩ := swept
    rw [converged, Fold.shifted] at early
    dsimp only at early
    omega
  · have moved := moved_fold_shifted edited range texts entry.2 ordered filled swept.1
    exact follows (entry.1, entry.2.shifted range texts)
      (on_change_keeps registry edited _ _ _ entry.1 entry.2 _ keyed member moved)

theorem edited_lines_report_marked_below_bracket :
    let lexer : Lexer := { vocabulary := Vocabulary.ofLists {} }
    let buffer := Buffer.ofText lexer "'b'\n\n'a'".toList
    let range : LineRange := ⟨1, 2⟩
    let texts := ["(".toList, "''".toList]
    let registry : FoldRegistry := ⟨{}, [(0, ⟨0, 0, 3, "'b'".toList⟩), (1, ⟨2, 0, 3, "'a'".toList⟩)], 2⟩
    let edited := (buffer.replaceLines range texts).1.document
    let relexed := (buffer.replaceLines range texts).2
    registry.Marked buffer.document ∧ Fold.Swept ⟨2, 0, 3, "'a'".toList⟩ range texts relexed ∧
      (registry.reportEdited edited range texts).Marked edited := by
  intro lexer buffer range texts registry edited relexed
  have marked : registry.Marked buffer.document := of_decide_eq_true (by cbv)
  have reached : relexed = ⟨1, 4⟩ := by unfold relexed buffer texts; cbv
  have swept : Fold.Swept ⟨2, 0, 3, "'a'".toList⟩ range texts relexed := by rw [reached]; decide
  have below : edited.lineTokens 3 = [⟨some .string, "'a'".toList, 0, 3⟩] := by unfold edited buffer texts; cbv
  have still : ∀ entry ∈ registry.folds, entry.2.Swept range texts relexed →
      (entry.2.shifted range texts).Marks edited := by
    intro entry member under
    rcases List.mem_cons.mp member with rfl | last
    · exact absurd under.1 (by decide)
    · rw [List.mem_singleton.mp last]
      change (⟨some .string, "'a'".toList, 0, 3⟩ : Token) ∈ edited.lineTokens 3
      rw [below]
      exact List.mem_singleton_self _
  exact ⟨marked, swept, (edited_lines_report_marked buffer range texts registry (by decide)
    (of_decide_eq_true (by cbv)) (List.cons_ne_nil _ _) marked).1 still⟩

theorem swept_fold_left_in_comment :
    let lexer : Lexer := { vocabulary := Vocabulary.ofLists {} }
    let buffer := Buffer.ofText lexer "\n'a'".toList
    let registry : FoldRegistry := ⟨{ foldableLength := 2 }, [(0, ⟨1, 0, 3, "'a'".toList⟩)], 1⟩
    let edited := (buffer.replaceLines ⟨0, 1⟩ ["/*".toList]).1.document
    let updated := registry.reportEdited edited ⟨0, 1⟩ ["/*".toList]
    1 ≤ buffer.document.lineCount ∧ registry.Marked buffer.document ∧
      updated.folds = [(0, ⟨1, 0, 3, "'a'".toList⟩)] ∧
      edited.lineTokens 1 = [⟨some .comment, "'a'".toList, 0, 3⟩] ∧ ¬ updated.Marked edited := by
  intro lexer buffer registry edited updated
  have marked : registry.Marked buffer.document := of_decide_eq_true (by cbv)
  have left : updated.folds = [(0, ⟨1, 0, 3, "'a'".toList⟩)] := by unfold updated edited; cbv
  have comment : edited.lineTokens 1 = [⟨some .comment, "'a'".toList, 0, 3⟩] := by unfold edited buffer; cbv
  refine ⟨of_decide_eq_true (by cbv), marked, left, comment, fun follows => ?_⟩
  have marks := follows (0, ⟨1, 0, 3, "'a'".toList⟩) (by rw [left]; exact List.mem_singleton_self _)
  rw [Fold.Marks, comment] at marks
  revert marks
  decide

end FilterAssist
