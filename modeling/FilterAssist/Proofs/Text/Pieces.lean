import FilterAssist.Text.Basic

set_option autoImplicit false

/-!
Texts cut into pieces, joined from pieces, and trimmed. Pieces that do not hold the separator come back from the
text that joins them, and a text without blanks is its own trimmed form.
-/
namespace FilterAssist

theorem split_on_filled (separator : Char) (text : Text) : Text.splitOn separator text ≠ [] := by
  cases text with
  | nil => exact List.cons_ne_nil _ _
  | cons c rest =>
      rw [Text.splitOn]
      split
      · exact List.cons_ne_nil _ _
      · split <;> exact List.cons_ne_nil _ _

theorem split_on_piece (separator : Char) (piece rest : Text) (absent : separator ∉ piece) :
    Text.splitOn separator (piece ++ separator :: rest) = piece :: Text.splitOn separator rest := by
  induction piece with
  | nil => rw [List.nil_append, Text.splitOn, if_pos rfl]
  | cons c piece ih =>
      rw [List.mem_cons, not_or] at absent
      obtain ⟨different, later⟩ := absent
      rw [List.cons_append, Text.splitOn, if_neg (Ne.symm different), ih later]

theorem split_on_whole (separator : Char) (piece : Text) (absent : separator ∉ piece) :
    Text.splitOn separator piece = [piece] := by
  induction piece with
  | nil => rfl
  | cons c piece ih =>
      rw [List.mem_cons, not_or] at absent
      obtain ⟨different, later⟩ := absent
      rw [Text.splitOn, if_neg (Ne.symm different), ih later]

theorem join_with_cons (separator piece next : Text) (pieces : List Text) :
    Text.joinWith separator (piece :: next :: pieces) =
      piece ++ (separator ++ Text.joinWith separator (next :: pieces)) := by
  rw [Text.joinWith, List.append_assoc]
  exact List.cons_ne_nil _ _

theorem join_with_mem (separator : Text) (pieces : List Text) (c : Char)
    (member : c ∈ Text.joinWith separator pieces) : c ∈ separator ∨ ∃ piece ∈ pieces, c ∈ piece := by
  induction pieces with
  | nil => cases member
  | cons piece pieces ih =>
      cases pieces with
      | nil => exact .inr ⟨piece, List.mem_cons_self, member⟩
      | cons next pieces =>
          rw [join_with_cons, List.mem_append, List.mem_append] at member
          rcases member with here | between | later
          · exact .inr ⟨piece, List.mem_cons_self, here⟩
          · exact .inl between
          · rcases ih later with between | ⟨other, present, inside⟩
            · exact .inl between
            · exact .inr ⟨other, List.mem_cons_of_mem piece present, inside⟩

theorem split_on_join (separator : Char) (pieces : List Text) (filled : pieces ≠ [])
    (absent : ∀ piece ∈ pieces, separator ∉ piece) :
    Text.splitOn separator (Text.joinWith [separator] pieces) = pieces := by
  induction pieces with
  | nil => exact absurd rfl filled
  | cons piece pieces ih =>
      have head : separator ∉ piece := absent piece List.mem_cons_self
      cases pieces with
      | nil => exact split_on_whole separator piece head
      | cons next pieces =>
          rw [join_with_cons, List.singleton_append, split_on_piece separator piece _ head,
            ih (List.cons_ne_nil next pieces) (fun other member => absent other (List.mem_cons_of_mem piece member))]

theorem join_with_snoc_empty (separator : Text) (pieces : List Text) (filled : pieces ≠ []) :
    Text.joinWith separator (pieces ++ [[]]) = Text.joinWith separator pieces ++ separator := by
  induction pieces with
  | nil => exact absurd rfl filled
  | cons piece pieces ih =>
      cases pieces with
      | nil => simp [join_with_cons, Text.joinWith]
      | cons next pieces =>
          rw [List.cons_append, List.cons_append, join_with_cons, join_with_cons, ← List.cons_append,
            ih (List.cons_ne_nil _ _), List.append_assoc, List.append_assoc]

theorem split_on_absent (separator : Char) (text : Text) : ∀ piece ∈ Text.splitOn separator text, separator ∉ piece := by
  induction text with
  | nil => simp [Text.splitOn]
  | cons c rest ih =>
      rw [Text.splitOn]
      split
      · exact List.forall_mem_cons.mpr ⟨List.not_mem_nil, ih⟩
      · rename_i different
        split
        · simp [Ne.symm different]
        · rename_i piece pieces cut
          rw [cut, List.forall_mem_cons] at ih
          exact List.forall_mem_cons.mpr ⟨List.not_mem_cons_of_ne_of_not_mem (Ne.symm different) ih.1, ih.2⟩

theorem split_on_ended (separator : Char) (pieces : List Text) (absent : ∀ piece ∈ pieces, separator ∉ piece) :
    Text.splitOn separator (pieces.flatMap fun piece => piece ++ [separator]) = pieces ++ [[]] := by
  induction pieces with
  | nil => rfl
  | cons piece pieces ih =>
      obtain ⟨head, later⟩ := List.forall_mem_cons.mp absent
      rw [List.flatMap_cons, List.append_assoc, List.singleton_append, split_on_piece separator piece _ head, ih later,
        List.cons_append]

theorem blank_code (c : Char) (blank : isBlank c = true) : c.toNat ≤ 32 ∨ 127 < c.toNat := by
  rw [isBlank, inRanges, List.any_eq_true] at blank
  obtain ⟨range, member, inside⟩ := blank
  have outside : blankRanges.all (fun range => decide (range.last ≤ 32 ∨ 127 < range.first)) = true := by decide
  have apart := List.all_eq_true.mp outside range member
  simp only [decide_eq_true_eq, Bool.and_eq_true] at apart inside
  omega

theorem trim_solid (text : Text) (solid : ∀ c ∈ text, isBlank c = false) : Text.trim text = text := by
  have front : Text.trimStart text = text := by
    cases text with
    | nil => rfl
    | cons c rest => rw [Text.trimStart, List.dropWhile_cons_of_neg (by simp [solid c List.mem_cons_self])]
  rw [Text.trim, front, Text.trimEnd]
  cases shape : text.reverse with
  | nil => rw [List.reverse_eq_nil_iff.mp shape]; rfl
  | cons c rest =>
      have last := solid c (List.mem_reverse.mp (by rw [shape]; exact List.mem_cons_self))
      rw [List.dropWhile_cons_of_neg (by simp [last]), ← shape, List.reverse_reverse]

end FilterAssist
