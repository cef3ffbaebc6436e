import Mathlib
import FilterAssist.Proofs.Buffer.RelexedRange

set_option autoImplicit false

/-!
The range that an edit reports. It covers the new lines, every line above it is as it was, every line
below it is an old one in its new place, and so no tokens change outside of it.
-/
namespace FilterAssist

-- Which line of the text before an edit a line after it stands for. The lines put in stand for none.
def LineRange.Moves (replaced : LineRange) (inserted old new : Nat) : Prop :=
  (new < replaced.start ∧ old = new) ∨
    (replaced.start + inserted ≤ new ∧ old + (replaced.start + inserted) = new + replaced.stop)

theorem kept_line (one other : Buffer) (new old : Nat) (same : one.rows[new]? = other.rows[old]?) :
    one.lines[new]? = other.lines[old]? ∧ one.tokens[new]? = other.tokens[old]? ∧
      one.stateAfter new = other.stateAfter old := by
  simp only [Buffer.lines, Buffer.tokens, Buffer.stateAfter, List.getElem?_map, same, and_self]

theorem kept_state_before (one other : Buffer) (line : Nat) (inOne : line < one.rows.length)
    (inOther : line < other.rows.length) (same : ∀ above, above < line → one.rows[above]? = other.rows[above]?) :
    one.stateBefore line = other.stateBefore line := by
  rw [Buffer.stateBefore, Buffer.stateBefore, if_pos inOne, if_pos inOther]
  cases line with
  | zero => rfl
  | succ above =>
      rw [Buffer.states, Buffer.states, List.getElem?_cons_succ, List.getElem?_cons_succ, List.getElem?_map,
        List.getElem?_map, same above (Nat.lt_succ_self above)]

theorem emptied_parts (buffer : Buffer) (range : LineRange) (texts : List Text)
    (empty : buffer.editedRows range texts = []) :
    texts = [] ∧ (range.clip buffer.rows.length).start = 0 ∧
      buffer.rows.length ≤ (range.clip buffer.rows.length).stop := by
  have kept := kept_rows_length buffer range
  have content := edited_rows_texts buffer range texts
  rw [empty, List.map_nil] at content
  obtain ⟨front, below⟩ := List.append_eq_nil_iff.mp content.symm
  have nothing : buffer.keptRows range = [] := by
    rw [Buffer.editedRows, List.append_assoc] at empty
    exact (List.append_eq_nil_iff.mp empty).1
  refine ⟨(List.append_eq_nil_iff.mp front).2, ?_, ?_⟩
  · rw [← kept, nothing, List.length_nil]
  · rw [Buffer.lines, List.length_map] at below
    simpa using List.drop_eq_nil_iff.mp below

theorem replace_lines_sizes (buffer : Buffer) (range : LineRange) (texts : List Text) :
    let replaced := range.clip buffer.rows.length
    let edited := (buffer.replaceLines range texts).1
    let reported := (buffer.replaceLines range texts).2
    reported.start = replaced.start ∧ replaced.start + texts.length ≤ reported.stop ∧
      reported.stop ≤ edited.rows.length ∧
      (edited.rows.length + replaced.stop = buffer.rows.length + replaced.start + texts.length ∨
        (buffer.rows.length ≤ replaced.stop ∧ edited.rows.length = reported.stop)) := by
  intro replaced edited reported
  rcases replace_lines_cases buffer range texts with ⟨empty, result⟩ | ⟨_, result⟩
  · obtain ⟨rfl, first, last⟩ := emptied_parts buffer range texts empty
    have rows : edited.rows.length = 1 := by simp [edited, result]
    have range : reported = ⟨0, 1⟩ := congrArg Prod.snd result
    rw [rows, range]
    exact ⟨first.symm, by simp [replaced, first], Nat.le_refl 1, .inr ⟨last, rfl⟩⟩
  · obtain ⟨lexed, rows, size, bound⟩ := edited_rows_parts buffer range texts
    have kept := kept_rows_length buffer range
    have ordered : replaced.start ≤ replaced.stop := Nat.min_le_right _ _
    have count : edited.rows.length = replaced.start + (texts.length + (buffer.resumedRows range texts).2) +
        (buffer.rows.length - (replaced.stop + (buffer.resumedRows range texts).2)) := by
      simp only [edited, result]
      rw [rows, List.length_append, List.length_append, List.length_drop, kept, size]
    have first : reported.start = replaced.start := by rw [show reported = _ from congrArg Prod.snd result]
    have last : reported.stop = replaced.start + texts.length + (buffer.resumedRows range texts).2 := by
      rw [show reported = _ from congrArg Prod.snd result]
    change replaced.stop + (buffer.resumedRows range texts).2 ≤ buffer.rows.length at bound
    exact ⟨first, by omega, by omega, .inl (by omega)⟩

theorem row_below_report (buffer : Buffer) (range : LineRange) (texts : List Text) (old new : Nat)
    (below : (buffer.replaceLines range texts).2.stop ≤ new)
    (moved : old + (buffer.replaceLines range texts).1.rows.length = new + buffer.rows.length) :
    (buffer.replaceLines range texts).1.rows[new]? = buffer.rows[old]? := by
  obtain ⟨resumed, relexed⟩ := replace_lines_relexed buffer range texts
  have count := relexed.count
  have found := relexed.below (new - (buffer.replaceLines range texts).2.stop)
  rw [Nat.add_sub_cancel' below] at found
  rw [found]
  congr 1
  omega

theorem lines_outside_report_kept (buffer : Buffer) (range : LineRange) (texts : List Text) :
    let replaced := range.clip buffer.lines.length
    let edited := (buffer.replaceLines range texts).1
    let reported := (buffer.replaceLines range texts).2
    reported.start = replaced.start ∧
      replaced.start + texts.length ≤ reported.stop ∧
      reported.stop ≤ edited.lines.length ∧
      (∀ line, line < reported.start →
        edited.lines[line]? = buffer.lines[line]? ∧ edited.tokens[line]? = buffer.tokens[line]? ∧
          edited.stateBefore line = buffer.stateBefore line ∧ edited.stateAfter line = buffer.stateAfter line) ∧
      (∀ line, reported.stop ≤ line → line < edited.lines.length →
        ∃ old, old < buffer.lines.length ∧ replaced.stop ≤ old ∧
          old + edited.lines.length = line + buffer.lines.length ∧
          edited.lines[line]? = buffer.lines[old]? ∧ edited.tokens[line]? = buffer.tokens[old]? ∧
          edited.stateAfter line = buffer.stateAfter old) ∧
      (∀ old new, replaced.Moves texts.length old new → old < buffer.lines.length →
        edited.tokens[new]? ≠ buffer.tokens[old]? → reported.start ≤ new ∧ new < reported.stop) := by
  intro replaced edited reported
  have oldCount : buffer.lines.length = buffer.rows.length := List.length_map _
  have newCount : edited.lines.length = edited.rows.length := List.length_map _
  have inside : replaced.start ≤ replaced.stop ∧ replaced.stop ≤ buffer.lines.length :=
    ⟨Nat.min_le_right _ _, Nat.min_le_right _ _⟩
  obtain ⟨first, covers, within, count⟩ : reported.start = replaced.start ∧
      replaced.start + texts.length ≤ reported.stop ∧ reported.stop ≤ edited.rows.length ∧
      (edited.rows.length + replaced.stop = buffer.rows.length + replaced.start + texts.length ∨
        (buffer.rows.length ≤ replaced.stop ∧ edited.rows.length = reported.stop)) := by
    simp only [replaced, oldCount]
    exact replace_lines_sizes buffer range texts
  have higher (line : Nat) (above : line < reported.start) : edited.rows[line]? = buffer.rows[line]? := by
    obtain ⟨_, relexed⟩ := replace_lines_relexed buffer range texts
    exact relexed.above line above
  have lower (old new : Nat) (below : reported.stop ≤ new)
      (moved : old + edited.rows.length = new + buffer.rows.length) : edited.rows[new]? = buffer.rows[old]? :=
    row_below_report buffer range texts old new below moved
  refine ⟨first, covers, by omega, ?_, ?_, ?_⟩
  · intro line above
    obtain ⟨text, tokens, after⟩ := kept_line edited buffer line line (higher line above)
    have before : edited.stateBefore line = buffer.stateBefore line :=
      kept_state_before edited buffer line (by omega) (by omega) (fun other before => higher other (by omega))
    exact ⟨text, tokens, before, after⟩
  · intro line below present
    obtain ⟨old, moved⟩ : ∃ old, old + edited.rows.length = line + buffer.rows.length :=
      ⟨line + buffer.rows.length - edited.rows.length, by omega⟩
    exact ⟨old, by omega, by omega, by omega, kept_line edited buffer line old (lower old line below moved)⟩
  · rintro old new (⟨above, rfl⟩ | ⟨below, moved⟩) present changed
    · exact absurd (kept_line edited buffer old old (higher old (by omega))).2.1 changed
    · refine ⟨by omega, ?_⟩
      by_contra outside
      exact changed (kept_line edited buffer new old (lower old new (by omega) (by omega))).2.1

theorem lines_outside_report_kept_around_comment :
    let buffer := Buffer.ofText { vocabulary := Vocabulary.ofLists {} } "1\n2\n3\n/**/\n4".toList
    let edited := (buffer.replaceLines ⟨1, 2⟩ ["/*".toList, "5".toList]).1
    let reported := (buffer.replaceLines ⟨1, 2⟩ ["/*".toList, "5".toList]).2
    (reported = ⟨1, 5⟩ ∧ edited.lines.length = 6 ∧ LineRange.Moves ⟨1, 2⟩ 2 2 3 ∧
        edited.tokens[3]? ≠ buffer.tokens[2]?) ∧
      edited.stateBefore 0 = buffer.stateBefore 0 ∧
      (∃ old, old + 6 = 5 + 5 ∧ edited.tokens[5]? = buffer.tokens[old]?) ∧
      reported.start ≤ 3 ∧ 3 < reported.stop := by
  intro buffer edited reported
  have range : reported = ⟨1, 5⟩ := by
    unfold reported buffer
    cbv
  have lines : edited.lines.length = 6 := by
    unfold edited buffer
    cbv
  have changed : edited.tokens[3]? ≠ buffer.tokens[2]? := by
    have new : edited.tokens[3]? = some [⟨some .comment, ['3'], 0, 1⟩] := by
      unfold edited buffer
      cbv
    have old : buffer.tokens[2]? = some [⟨some .number, ['3'], 0, 1⟩] := by
      unfold buffer
      cbv
    rw [new, old]
    decide
  have moves : LineRange.Moves ⟨1, 2⟩ 2 2 3 := .inr ⟨by decide, by decide⟩
  have count : buffer.lines.length = 5 := by
    unfold buffer
    cbv
  have clipped : LineRange.clip ⟨1, 2⟩ buffer.lines.length = ⟨1, 2⟩ := by rw [count]; rfl
  obtain ⟨_, _, _, above, below, inside⟩ := lines_outside_report_kept buffer ⟨1, 2⟩ ["/*".toList, "5".toList]
  obtain ⟨_, _, before, _⟩ := above 0 (by change 0 < reported.start; rw [range]; decide)
  obtain ⟨old, _, _, moved, _, tokens, _⟩ :=
    below 5 (by change reported.stop ≤ 5; rw [range]) (by change 5 < edited.lines.length; rw [lines]; decide)
  change old + edited.lines.length = 5 + buffer.lines.length at moved
  rw [lines, count] at moved
  exact ⟨⟨range, lines, moves, changed⟩, before, ⟨old, moved, tokens⟩,
    inside 2 3 (by rw [clipped]; exact moves) (by rw [count]; decide) changed⟩

end FilterAssist
