import Mathlib
import FilterAssist.Lexer.Layout

set_option autoImplicit false

/-!
How far the visual columns of a line lie apart. A character takes at least one column and at most a whole
tab, a tab ends at the next stop, and so a line's length bounds every sum on the way. Counting in words of
64 bits gives the same columns as long as a word holds that bound.
-/
namespace FilterAssist

def nextColumn (tabSize column : Nat) (c : Char) : Nat :=
  if c = '\t' then column + max tabSize 1 - column % max tabSize 1 else column + 1

def visualColumn (tabSize : Nat) (line : Text) (index : Nat) : Nat :=
  (line.take index).foldl (nextColumn tabSize) 0

def columnSum (tabSize column : Nat) (c : Char) : Nat :=
  if c = '\t' then column + max tabSize 1 else column + 1

theorem column_sum_between (tabSize column : Nat) (c : Char) :
    column ≤ columnSum tabSize column c ∧ columnSum tabSize column c ≤ column + max tabSize 1 := by
  unfold columnSum
  split <;> omega

theorem next_column_from_sum (tabSize column : Nat) (c : Char) :
    nextColumn tabSize column c =
      if c = '\t' then columnSum tabSize column c - column % max tabSize 1 else columnSum tabSize column c := by
  unfold nextColumn columnSum
  split <;> rfl

theorem next_column_between (tabSize column : Nat) (c : Char) :
    column + 1 ≤ nextColumn tabSize column c ∧ nextColumn tabSize column c ≤ column + max tabSize 1 := by
  have inside : column % max tabSize 1 < max tabSize 1 := Nat.mod_lt column (by omega)
  unfold nextColumn
  split <;> omega

theorem columns_between (tabSize column : Nat) (text : Text) :
    column + text.length ≤ text.foldl (nextColumn tabSize) column ∧
      text.foldl (nextColumn tabSize) column ≤ column + text.length * max tabSize 1 := by
  induction text generalizing column with
  | nil => simp
  | cons c text ih =>
      obtain ⟨wider, narrower⟩ := next_column_between tabSize column c
      obtain ⟨least, most⟩ := ih (nextColumn tabSize column c)
      rw [List.length_cons, List.foldl_cons, Nat.succ_mul]
      omega

theorem visual_column_from (tabSize : Nat) (line : Text) (first last : Nat) (ordered : first ≤ last) :
    visualColumn tabSize line last =
      ((line.drop first).take (last - first)).foldl (nextColumn tabSize) (visualColumn tabSize line first) := by
  have parts : line.take last = line.take first ++ (line.drop first).take (last - first) := by
    rw [← List.take_add, Nat.add_sub_cancel' ordered]
  rw [visualColumn, parts, List.foldl_append, ← visualColumn]

theorem visual_column_ordered (tabSize : Nat) (line : Text) (first last : Nat) (ordered : first ≤ last) :
    visualColumn tabSize line first ≤ visualColumn tabSize line last := by
  rw [visual_column_from tabSize line first last ordered]
  exact Nat.le_of_add_right_le (columns_between tabSize _ _).1

theorem visual_column_at_most (tabSize : Nat) (line : Text) (index : Nat) :
    visualColumn tabSize line index ≤ line.length * max tabSize 1 := by
  have most := (columns_between tabSize 0 (line.take index)).2
  rw [Nat.zero_add] at most
  exact most.trans (Nat.mul_le_mul_right _ (List.length_take_le' index line))

theorem visual_column_next (tabSize : Nat) (line : Text) (index : Nat) (c : Char) (rest : Text)
    (shape : line.drop index = c :: rest) :
    visualColumn tabSize line (index + 1) = nextColumn tabSize (visualColumn tabSize line index) c := by
  rw [visual_column_from tabSize line index (index + 1) (Nat.le_succ index), shape, Nat.add_sub_cancel_left]
  rfl

theorem tab_stop_least (tabSize column : Nat) :
    IsLeast {stop | max tabSize 1 ∣ stop ∧ column < stop} (nextColumn tabSize column '\t') := by
  have positive : 0 < max tabSize 1 := by omega
  have stop : nextColumn tabSize column '\t' = max tabSize 1 * (column / max tabSize 1 + 1) := by
    have parts := Nat.div_add_mod column (max tabSize 1)
    rw [nextColumn, if_pos rfl, Nat.mul_add, Nat.mul_one]
    omega
  rw [stop]
  refine ⟨⟨Nat.dvd_mul_right _ _, Nat.lt_mul_div_succ column positive⟩, ?_⟩
  rintro _ ⟨⟨count, rfl⟩, beyond⟩
  exact Nat.mul_le_mul_left _ (Nat.div_lt_of_lt_mul beyond)

theorem word_sum_exact (tabSize column : UInt64) (c : Char)
    (fits : columnSum tabSize.toNat column.toNat c < 2 ^ 64) :
    (wordSum tabSize column c).toNat = columnSum tabSize.toNat column.toNat c := by
  unfold wordSum columnSum at *
  by_cases tab : c = '\t'
  · rw [if_pos tab] at fits
    rw [if_pos tab, if_pos tab, UInt64.toNat_add, UInt64.toNat_max, UInt64.toNat_one, Nat.mod_eq_of_lt fits]
  · rw [if_neg tab] at fits
    rw [if_neg tab, if_neg tab, UInt64.toNat_add, UInt64.toNat_one, Nat.mod_eq_of_lt fits]

theorem next_word_exact (tabSize column : UInt64) (c : Char)
    (fits : nextColumn tabSize.toNat column.toNat c < 2 ^ 64) :
    (nextWord tabSize column c).toNat = nextColumn tabSize.toNat column.toNat c := by
  -- A sum that wraps is wrapped back by what the tab takes off it, so only the column itself has to fit.
  unfold nextWord wordSum nextColumn at *
  by_cases tab : c = '\t'
  · rw [if_pos tab] at fits
    have remainder : column.toNat % max tabSize.toNat 1 ≤ column.toNat := Nat.mod_le _ _
    have small := column.toNat_lt
    rw [if_pos tab, if_pos tab, if_pos tab, UInt64.toNat_sub, UInt64.toNat_add, UInt64.toNat_mod, UInt64.toNat_max,
      UInt64.toNat_one]
    omega
  · rw [if_neg tab] at fits
    rw [if_neg tab, if_neg tab, if_neg tab, UInt64.toNat_add, UInt64.toNat_one, Nat.mod_eq_of_lt fits]

theorem words_exact (tabSize column : UInt64) (text : Text)
    (fits : text.foldl (nextColumn tabSize.toNat) column.toNat < 2 ^ 64) :
    (text.foldl (nextWord tabSize) column).toNat = text.foldl (nextColumn tabSize.toNat) column.toNat := by
  induction text generalizing column with
  | nil => rfl
  | cons c text ih =>
      rw [List.foldl_cons] at fits
      have least := (columns_between tabSize.toNat (nextColumn tabSize.toNat column.toNat c) text).1
      have step := next_word_exact tabSize column c (by omega)
      rw [List.foldl_cons, List.foldl_cons, ← step]
      rw [← step] at fits
      exact ih (nextWord tabSize column c) fits

theorem word_column_exact (tabSize : UInt64) (line : Text) (index : Nat)
    (fits : visualColumn tabSize.toNat line index < 2 ^ 64) :
    (wordColumn tabSize line index).toNat = visualColumn tabSize.toNat line index :=
  words_exact tabSize 0 (line.take index) fits

theorem visual_columns_bounded (tabSize : Nat) (line : Text) :
    let width := max tabSize 1
    let column := visualColumn tabSize line
    let bound := line.length * width + width
    (∀ first last, first ≤ last → last ≤ line.length →
      column first + (last - first) ≤ column last ∧ column last ≤ column first + (last - first) * width) ∧
    (∀ index rest, line.drop index = '\t' :: rest →
      IsLeast {stop | width ∣ stop ∧ column index < stop} (column (index + 1))) ∧
    (∀ index c rest, line.drop index = c :: rest →
      let sum := columnSum tabSize (column index) c
      column (index + 1) = (if c = '\t' then sum - column index % width else sum) ∧ sum ≤ bound) ∧
    (∀ word : UInt64, word.toNat = tabSize → bound < 2 ^ 64 → ∀ index,
      (wordColumn word line index).toNat = column index ∧
        ∀ c rest, line.drop index = c :: rest →
          (wordSum word (wordColumn word line index) c).toNat = columnSum tabSize (column index) c) := by
  intro width column bound
  have summed (index : Nat) (c : Char) : columnSum tabSize (column index) c ≤ bound :=
    (column_sum_between tabSize (column index) c).2.trans
      (Nat.add_le_add_right (visual_column_at_most tabSize line index) width)
  have next (index : Nat) (c : Char) (rest : Text) (shape : line.drop index = c :: rest) :
      column (index + 1) = nextColumn tabSize (column index) c :=
    visual_column_next tabSize line index c rest shape
  refine ⟨fun first last ordered inside => ?_, fun index rest shape => ?_, fun index c rest shape => ?_, ?_⟩
  · have between := columns_between tabSize (column first) ((line.drop first).take (last - first))
    have count : ((line.drop first).take (last - first)).length = last - first := by
      rw [List.length_take, List.length_drop]
      omega
    rwa [count, ← visual_column_from tabSize line first last ordered] at between
  · rw [next index '\t' rest shape]
    exact tab_stop_least tabSize (column index)
  · exact ⟨(next index c rest shape).trans (next_column_from_sum tabSize (column index) c), summed index c⟩
  · rintro word rfl fits index
    have most := visual_column_at_most word.toNat line index
    have same : (wordColumn word line index).toNat = column index :=
      word_column_exact word line index ((most.trans (Nat.le_add_right _ width)).trans_lt fits)
    refine ⟨same, fun c rest shape => ?_⟩
    have small : columnSum word.toNat (wordColumn word line index).toNat c < 2 ^ 64 := by
      rw [same]
      exact (summed index c).trans_lt fits
    rw [word_sum_exact word _ c small, same]

theorem visual_columns_bounded_with_wide_tabs :
    let line := "a\t\tb".toList
    let column := visualColumn (2 ^ 61) line
    let word := UInt64.ofNat (2 ^ 61)
    (column 1 + 2 ≤ column 3 ∧ column 3 ≤ column 1 + 2 * 2 ^ 61) ∧
      IsLeast {stop | 2 ^ 61 ∣ stop ∧ column 1 < stop} (column 2) ∧
      columnSum (2 ^ 61) (column 1) '\t' ≤ 4 * 2 ^ 61 + 2 ^ 61 ∧ 4 * 2 ^ 61 + 2 ^ 61 < 2 ^ 64 ∧
      (wordColumn word line 3).toNat = column 3 ∧
      (wordSum word (wordColumn word line 1) '\t').toNat = columnSum (2 ^ 61) (column 1) '\t' := by
  intro line column word
  obtain ⟨apart, stops, sums, words⟩ := visual_columns_bounded (2 ^ 61) line
  have tab : line.drop 1 = '\t' :: ['\t', 'b'] := rfl
  have fits : 4 * 2 ^ 61 + 2 ^ 61 < 2 ^ 64 := by decide
  exact ⟨apart 1 3 (by decide) (by decide), stops 1 _ tab, (sums 1 _ _ tab).2, fits, (words word rfl fits 3).1,
    (words word rfl fits 1).2 _ _ tab⟩

example : wordColumn (-1) ['\t', '\t'] 2 < wordColumn (-1) ['\t', '\t'] 1 := by
  decide

end FilterAssist
