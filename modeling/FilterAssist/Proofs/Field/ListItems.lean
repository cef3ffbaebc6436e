import FilterAssist.Proofs.Field.Replacement
import FilterAssist.Proofs.ListValue.Separators

set_option autoImplicit false

/-!
Writing the items of a list field. The commas of items are escaped, their quotes and backslashes are
written as they are: the items come back unless one of these ends the string early, joins two items or
escapes the closing quote.
-/
namespace FilterAssist

open ListValue

theorem escapes_separated (escaped : Bool) (front back : Text) :
    escapes escaped (front ++ ',' :: back) = escapes false back := by
  rw [escapes_append]
  change escapes (!escapes escaped front && ',' == '\\') back = escapes false back
  rw [show (',' == '\\') = false from rfl, Bool.and_false]

theorem enclosed_separated (escaped : Bool) (front back : Text) :
    Enclosed '"' escaped (front ++ ',' :: back) ↔ Enclosed '"' escaped front ∧ Enclosed '"' false back := by
  rw [enclosed_append, enclosed_cons, show (',' == '\\') = false from rfl, Bool.and_false]
  have other : ',' ≠ '"' := by decide
  exact and_congr_right' (and_iff_right (fun same => absurd same other))

theorem escapes_written (escaped : Bool) (item : Text) : escapes escaped (written item) = escapes escaped item := by
  induction item generalizing escaped with
  | nil => rfl
  | cons c item ih =>
      by_cases comma : c = ','
      · rw [written_cons, if_pos comma, comma]
        exact (escapes_separated escaped ['\\'] (written item)).trans
          ((ih false).trans (escapes_separated escaped [] item).symm)
      · rw [written_cons, if_neg comma]
        exact ih _

theorem enclosed_written (escaped : Bool) (item : Text) :
    Enclosed '"' escaped (written item) ↔ Enclosed '"' escaped item := by
  induction item generalizing escaped with
  | nil => rfl
  | cons c item ih =>
      by_cases comma : c = ','
      · have backslash : Enclosed '"' escaped ['\\'] := by simp [enclosed_cons, enclosed_nil]
        have before := enclosed_separated escaped ['\\'] (written item)
        have after := enclosed_separated escaped [] item
        rw [and_iff_right backslash, ih] at before
        rw [and_iff_right (enclosed_nil '"' escaped)] at after
        rw [written_cons, if_pos comma, comma]
        exact before.trans after.symm
      · rw [written_cons, if_neg comma, List.singleton_append, enclosed_cons, enclosed_cons, ih]

theorem enclosed_joined : ∀ items, Enclosed '"' false (joined items) ↔ ∀ item ∈ items, Enclosed '"' false item
  | [] => iff_of_true (enclosed_nil '"' false) (fun item member => by cases member)
  | [item] => by
      rw [List.forall_mem_singleton]
      exact enclosed_written false item
  | item :: next :: items => by
      rw [joined_cons, enclosed_separated, enclosed_written, enclosed_joined (next :: items)]
      exact List.forall_mem_cons.symm

theorem escapes_joined : ∀ items, escapes false (joined items) = false ↔
    ∀ item, items.getLast? = some item → escapes false item = false
  | [] => iff_of_true rfl (fun item last => by cases last)
  | [item] => by
      rw [show joined [item] = written item from rfl, escapes_written]
      constructor
      · rintro ends other last
        rwa [← Option.some.inj last]
      · exact fun ends => ends item rfl
  | item :: next :: items => by
      rw [joined_cons, escapes_separated, escapes_joined (next :: items), List.getLast?_cons_cons]

theorem quoted_value_counted (start : Nat) (value tail : Text)
    (same : (unquote (stringToken '"' start (value ++ '"' :: tail)).text).count '"' = value.count '"') :
    unquote (stringToken '"' start (value ++ '"' :: tail)).text = value := by
  have whole (more front back : Text) (shape : '"' :: front = more ++ back) (none : more.count '"' = 0) : more = [] := by
    cases more with
    | nil => rfl
    | cons c more =>
        obtain ⟨rfl, _⟩ := List.cons.inj shape
        rw [List.count_cons_self] at none
        cases none
  rcases string_token_cases '"' start (value ++ '"' :: tail) (.inl rfl) with
    ⟨body, after, parts, _, _, _, _, read⟩ | ⟨_, _, _, read⟩
  · rw [read] at same ⊢
    rcases List.append_eq_append_iff.mp parts with ⟨more, rfl, shape⟩ | ⟨more, rfl, shape⟩
    · rw [List.count_append] at same
      rw [whole more tail _ shape (by omega), List.append_nil]
    · rw [List.count_append] at same
      rw [whole more after _ shape (by omega), List.append_nil]
  · rw [read, List.count_append, List.count_cons_self] at same
    omega

theorem list_items_read_back_iff (lexer : Lexer) (text : Text) (edits : List Edit) (line column : Nat) (field : Field)
    (items : List Text)
    (found : Field.at? ((Buffer.ofText lexer text).editAll edits).document line column = some field)
    (list : field.kind = .list)
    (shown : ∀ item ∈ items, Text.allBlank item = false ∧ Text.trim item = item) :
    let buffer := (Buffer.ofText lexer text).editAll edits
    let edited := buffer.applyEdit (field.listReplacement items)
    ∃ again, Field.at? edited.document line (field.token.start + 1) = some again ∧
      again.kind = .list ∧ again.token.start = field.token.start ∧
      (again.listItems = items ↔
        (∀ item ∈ items, ∀ before after, item = before ++ '"' :: after → endsEscaped before = true) ∧
        (∀ item ∈ items.dropLast, item.getLast? ≠ some '\\') ∧
        ∀ item, items.getLast? = some item → endsEscaped item = false) := by
  intro buffer edited
  have fresh : buffer.Fresh := edit_all_fresh _ edits (of_text_fresh lexer text)
  obtain ⟨tail, again⟩ := replaced_field_found buffer fresh line column field (format items) found
  refine ⟨_, again, list, rfl, ?_⟩
  have filled : ∀ item ∈ items, Text.allBlank item = false := fun item member => (shown item member).1
  have trimmed : items.map Text.trim = items :=
    (List.map_congr_left (fun item member => (shown item member).2)).trans (List.map_id items)
  have quotes : Plain '"' := ⟨by decide, by decide, by decide⟩
  have separated := parse_joined_iff items filled
  have readBack := quoted_value_read_back '"' field.token.start (joined items) tail (.inl rfl)
  rw [trimmed] at separated
  rw [enclosed_joined, escapes_joined] at readBack
  simp only [← escapes_ends, Field.listItems, list, Field.value, format_shown items filled]
  constructor
  · intro same
    -- Reading keeps the quotes of what it reads, and writing keeps those of the items.
    have kept := quoted_value_counted field.token.start (joined items) tail (by
      rw [← parse_count '"' quotes, same, joined_count '"' quotes])
    rw [kept] at same
    obtain ⟨enclosed, ends⟩ := readBack.mp kept
    exact ⟨enclosed, separated.mp same, ends⟩
  · rintro ⟨enclosed, apart, ends⟩
    rw [readBack.mpr ⟨enclosed, ends⟩]
    exact separated.mpr apart

theorem list_items_read_back_iff_in_edited_line :
    let lexer : Lexer := { vocabulary := Vocabulary.ofLists { operators := ["in".toList] } }
    let edits : List Edit := [.setLine 1 " 'a".toList]
    let buffer := (Buffer.ofText lexer "in".toList).editAll edits
    let field : Field := ⟨.list, 1, ⟨some .string, "'a".toList, 1, 3⟩, "in".toList⟩
    let items := ["a,b".toList, "c\\\"d".toList, "e\\\\".toList]
    Field.at? buffer.document 1 3 = some field ∧
      (∀ item ∈ items, Text.allBlank item = false ∧ Text.trim item = item) ∧
      ∃ again, Field.at? (buffer.applyEdit (field.listReplacement items)).document 1 2 = some again ∧
        again.listItems = items := by
  intro lexer edits buffer field items
  have found : Field.at? buffer.document 1 3 = some field := by unfold buffer edits lexer field; cbv
  have shown : ∀ item ∈ items, Text.allBlank item = false ∧ Text.trim item = item := by decide
  obtain ⟨again, here, _, _, reads⟩ := list_items_read_back_iff lexer "in".toList edits 1 3 field items found rfl shown
  have enclosed : ∀ item ∈ items, Enclosed '"' false item := by
    change ∀ item ∈ [['a', ',', 'b'], ['c', '\\', '"', 'd'], ['e', '\\', '\\']], Enclosed '"' false item
    simp [enclosed_cons, enclosed_nil]
  refine ⟨found, shown, again, here, reads.mpr ⟨fun item member before after parts => ?_, by decide, ?_⟩⟩
  · rw [← escapes_ends]
    exact enclosed item member before after parts
  · rintro item last
    rw [← Option.some.inj last]
    rfl

theorem list_items_joined_by_backslash :
    let lexer : Lexer := { vocabulary := Vocabulary.ofLists { operators := ["in".toList] } }
    let buffer := Buffer.ofText lexer "in \"x\"".toList
    let field : Field := ⟨.list, 0, ⟨some .string, "\"x\"".toList, 3, 6⟩, "in".toList⟩
    let items := ["a\\".toList, "b".toList]
    Field.at? buffer.document 0 4 = some field ∧
      (∀ item ∈ items, Text.allBlank item = false ∧ Text.trim item = item) ∧
      (Field.at? (buffer.applyEdit (field.listReplacement items)).document 0 4).map Field.listItems =
        some ["a,b".toList] := by
  intro lexer buffer field items
  refine ⟨by unfold buffer lexer field; cbv, by decide, ?_⟩
  unfold buffer lexer field items
  cbv

end FilterAssist
