import Mathlib
import FilterAssist.Vocabulary
import FilterAssist.Lexer.Layout

set_option autoImplicit false

/-!
Texts that differ in the case of ASCII letters alone. Lowering the ASCII letters of a text first has no
influence on its lower-case form, on its visual columns, or on where a run of characters of a class ends,
provided that the class does not tell a capital from its small letter.
-/
namespace FilterAssist

def capitals : List Char :=
  "ABCDEFGHIJKLMNOPQRSTUVWXYZ".toList

theorem lower_cases (c : Char) : c.toLower = c ∨ c ∈ capitals := by
  unfold Char.toLower
  split
  · rename_i capital
    right
    have first : 65 ≤ c.toNat := capital.1
    have last : c.toNat ≤ 90 := capital.2
    rw [← Char.ofNat_toNat c]
    generalize c.toNat = code at first last
    revert code
    decide
  · exact .inl rfl

theorem lower_invariant {α : Type} (view : Char → α)
    (small : capitals.map (fun c => view c.toLower) = capitals.map view) (c : Char) : view c.toLower = view c := by
  rcases lower_cases c with same | member
  · rw [same]
  · exact List.map_inj_left.mp small c member

theorem capital_letters (c : Char) (member : c ∈ capitals) : isLetter c = true ∧ isLetter c.toLower = true := by
  have letters : capitals.all isLetter = true := by decide
  have letter := List.all_eq_true.mp letters c member
  exact ⟨letter, (lower_invariant isLetter (by decide) c).trans letter⟩

theorem lower_eq_iff (mark : Char) (other : isLetter mark = false) (c : Char) : c.toLower = mark ↔ c = mark := by
  rcases lower_cases c with same | member
  · rw [same]
  · obtain ⟨before, after⟩ := capital_letters c member
    constructor
    · rintro rfl
      rw [other] at after
      cases after
    · rintro rfl
      rw [other] at before
      cases before

theorem letter_outside_ranges (ranges : List CodeRange)
    (outside : ranges.all (fun range =>
      decide (range.last < 65 ∨ (90 < range.first ∧ range.last < 97) ∨ 122 < range.first)) = true)
    (c : Char) (letter : isLetter c = true) : inRanges ranges c = false := by
  have bounds : (97 ≤ c.toNat ∧ c.toNat ≤ 122) ∨ (65 ≤ c.toNat ∧ c.toNat ≤ 90) := by
    simp only [isLetter, Bool.or_eq_true, Bool.and_eq_true, decide_eq_true_eq] at letter
    exact letter
  rw [inRanges, List.any_eq_false]
  intro range member
  have apart := List.all_eq_true.mp outside range member
  simp only [decide_eq_true_eq] at apart
  simp only [Bool.and_eq_true, decide_eq_true_eq]
  omega

theorem lower_blank (c : Char) : isBlank c.toLower = isBlank c :=
  lower_invariant isBlank (by decide) c

theorem lower_digit (c : Char) : isDigit c.toLower = isDigit c :=
  lower_invariant isDigit (by decide) c

theorem lower_cons (c : Char) (text : Text) : Text.asciiLower (c :: text) = c.toLower :: text.asciiLower :=
  rfl

theorem lower_length (text : Text) : text.asciiLower.length = text.length :=
  List.length_map _

theorem lower_take (text : Text) (count : Nat) : text.asciiLower.take count = Text.asciiLower (text.take count) :=
  (List.map_take ..).symm

theorem lower_drop (text : Text) (count : Nat) : text.asciiLower.drop count = Text.asciiLower (text.drop count) :=
  (List.map_drop ..).symm

theorem lower_take_while (test : Char → Bool) (same : ∀ c, test c.toLower = test c) (text : Text) :
    text.asciiLower.takeWhile test = Text.asciiLower (text.takeWhile test) := by
  have view : test ∘ Char.toLower = test := funext same
  rw [Text.asciiLower, List.takeWhile_map, view]
  rfl

theorem lower_head_iff (mark : Char) (other : isLetter mark = false) (text : Text) :
    text.asciiLower.head? = some mark ↔ text.head? = some mark := by
  cases text with
  | nil => rfl
  | cons c rest => simp [Text.asciiLower, lower_eq_iff mark other]

theorem lower_head_any (test : Char → Bool) (same : ∀ c, test c.toLower = test c) (text : Text) :
    text.asciiLower.head?.any test = text.head?.any test := by
  cases text with
  | nil => rfl
  | cons c rest => exact same c

theorem lower_case_ignorable (c : Char) : isCaseIgnorable c.toLower = isCaseIgnorable c := by
  rcases lower_cases c with same | member
  · rw [same]
  · obtain ⟨before, after⟩ := capital_letters c member
    have outside := letter_outside_ranges caseIgnorableRanges (by decide +kernel)
    rw [isCaseIgnorable, isCaseIgnorable, outside c before, outside c.toLower after]

theorem starts_cased_lower (text : Text) : startsCased text.asciiLower = startsCased text := by
  have view : isCaseIgnorable ∘ Char.toLower = isCaseIgnorable := funext lower_case_ignorable
  rw [startsCased, startsCased, Text.asciiLower, List.dropWhile_map, view]
  cases text.dropWhile isCaseIgnorable with
  | nil => rfl
  | cons c rest => exact lower_invariant isCased (by decide) c

theorem lower_from_lower (before text : Text) :
    lowerFrom before.asciiLower text.asciiLower = lowerFrom before text := by
  -- The sigma looks at the characters around it, but not at their case.
  induction text generalizing before with
  | nil => rfl
  | cons c rest ih =>
      have sigma := lower_eq_iff 'Σ' (by decide) c
      have single := lower_invariant lowerChar (by decide) c
      have later := ih (c :: before)
      rw [lower_cons] at later ⊢
      simp only [lowerFrom, sigma, single, starts_cased_lower]
      rw [later]

theorem lower_case_lower (text : Text) : lowerCase text.asciiLower = lowerCase text :=
  lower_from_lower [] text

theorem words_lower (tabSize column : UInt64) (text : Text) :
    text.asciiLower.foldl (nextWord tabSize) column = text.foldl (nextWord tabSize) column := by
  have step : (fun column c => nextWord tabSize column (Char.toLower c)) = nextWord tabSize := by
    funext column c
    simp only [nextWord, wordSum, lower_eq_iff '\t' (by decide)]
  rw [Text.asciiLower, List.foldl_map, step]

theorem word_column_lower (tabSize : UInt64) (line : Text) (index : Nat) :
    wordColumn tabSize line.asciiLower index = wordColumn tabSize line index := by
  rw [wordColumn, wordColumn, lower_take, words_lower]

theorem indentation_lower (tabSize : UInt64) (line : Text) :
    indentation tabSize line.asciiLower = indentation tabSize line := by
  rw [indentation_blanks, indentation_blanks, lower_take_while isBlank lower_blank, words_lower]

end FilterAssist
