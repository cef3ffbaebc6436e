import FilterAssist.Lexer.Pattern
import FilterAssist.Token

set_option autoImplicit false

/-!
A cursor on one line, with a mark where the token being read starts.
-/
namespace FilterAssist

structure Cursor where
  line : Text
  pos : Nat
  start : Nat
deriving DecidableEq, Repr

namespace Cursor

def ofColumn (line : Text) (column : Nat) : Cursor :=
  ⟨line, min column line.length, min column line.length⟩

def rest (cursor : Cursor) : Text :=
  cursor.line.drop cursor.pos

def atStart (cursor : Cursor) : Bool :=
  cursor.pos == 0

def atEnd (cursor : Cursor) : Bool :=
  decide (cursor.line.length ≤ cursor.pos)

def peek (cursor : Cursor) : Option Char :=
  cursor.rest.head?

def move (cursor : Cursor) (count : Nat) : Cursor :=
  { cursor with pos := cursor.pos + count }

def next (cursor : Cursor) : Option Char × Cursor :=
  match cursor.peek with
  | none => (none, cursor)
  | some c => (some c, cursor.move 1)

def eat (cursor : Cursor) (expected : Char) : Bool × Cursor :=
  if cursor.peek = some expected then (true, cursor.move 1) else (false, cursor)

def eatWhile (cursor : Cursor) (test : Char → Bool) : Bool × Cursor :=
  let count := (cursor.rest.takeWhile test).length
  (decide (0 < count), cursor.move count)

def eatBlanks (cursor : Cursor) : Bool × Cursor :=
  cursor.eatWhile isBlank

def skipToEnd (cursor : Cursor) : Cursor :=
  { cursor with pos := cursor.line.length }

def skipTo (cursor : Cursor) (c : Char) : Bool × Cursor :=
  if cursor.rest.contains c then
    (true, cursor.move (cursor.rest.takeWhile fun other => other != c).length)
  else (false, cursor)

def eatMatch (cursor : Cursor) (pattern : Pattern) : Bool × Cursor :=
  match pattern.find cursor.rest with
  | some (0, length + 1) => (true, cursor.move (length + 1))
  | _ => (false, cursor)

def markStart (cursor : Cursor) : Cursor :=
  { cursor with start := cursor.pos }

def current (cursor : Cursor) : Text :=
  (cursor.line.drop cursor.start).take (cursor.pos - cursor.start)

def token (cursor : Cursor) (kind : Option TokenKind) : Token :=
  ⟨kind, cursor.current, cursor.start, cursor.pos⟩

theorem rest_move (cursor : Cursor) (count : Nat) : (cursor.move count).rest = cursor.rest.drop count :=
  (List.drop_drop ..).symm

theorem peek_rest (cursor : Cursor) (c : Char) (found : cursor.peek = some c) :
    cursor.rest = c :: (cursor.move 1).rest := by
  obtain ⟨later, parts⟩ := List.head?_eq_some_iff.mp found
  rw [rest_move, parts, List.drop_one, List.tail_cons]

theorem next_some (cursor : Cursor) (c : Char) (found : cursor.peek = some c) :
    cursor.next = (some c, cursor.move 1) := by
  simp only [next, found]

theorem next_missing (cursor after : Cursor) (missing : cursor.next = (none, after)) : cursor.rest = [] := by
  unfold next at missing
  split at missing
  · rename_i absent
    exact List.head?_eq_none_iff.mp absent
  · cases missing

theorem next_taken (cursor after : Cursor) (c : Char) (taken : cursor.next = (some c, after)) :
    cursor.rest = c :: after.rest ∧ after = cursor.move 1 := by
  unfold next at taken
  split at taken
  · cases taken
  · rename_i found
    cases taken
    exact ⟨cursor.peek_rest _ found, rfl⟩

theorem eat_taken (cursor after : Cursor) (c : Char) (taken : cursor.eat c = (true, after)) :
    cursor.peek = some c ∧ after = cursor.move 1 := by
  unfold eat at taken
  split at taken
  · rename_i found
    cases taken
    exact ⟨found, rfl⟩
  · cases taken

theorem eat_missed (cursor after : Cursor) (c : Char) (missed : cursor.eat c = (false, after)) :
    cursor.peek ≠ some c ∧ after = cursor := by
  unfold eat at missed
  split at missed
  · cases missed
  · rename_i other
    cases missed
    exact ⟨other, rfl⟩

theorem at_end_iff (cursor : Cursor) : cursor.atEnd = true ↔ cursor.rest = [] := by
  simp only [atEnd, rest, decide_eq_true_eq, List.drop_eq_nil_iff]

theorem eat_while_some (cursor after : Cursor) (test : Char → Bool) (eaten : cursor.eatWhile test = (true, after)) :
    0 < (cursor.rest.takeWhile test).length ∧ after = cursor.move (cursor.rest.takeWhile test).length := by
  simp only [eatWhile, Prod.mk.injEq, decide_eq_true_eq] at eaten
  exact ⟨eaten.1, eaten.2.symm⟩

theorem eat_while_none (cursor after : Cursor) (test : Char → Bool) (eaten : cursor.eatWhile test = (false, after)) :
    cursor.rest.takeWhile test = [] ∧ after = cursor := by
  simp only [eatWhile, Prod.mk.injEq, decide_eq_false_iff_not, Nat.not_lt, Nat.le_zero, List.length_eq_zero_iff] at eaten
  refine ⟨eaten.1, ?_⟩
  rw [← eaten.2, eaten.1]
  rfl

theorem rest_move_le (cursor : Cursor) (count : Nat) : (cursor.move count).rest.length ≤ cursor.rest.length := by
  rw [rest_move, List.length_drop]
  exact Nat.sub_le ..

theorem rest_skip_to_end (cursor : Cursor) : cursor.skipToEnd.rest = [] :=
  List.drop_length

theorem rest_eat_le (cursor : Cursor) (c : Char) : (cursor.eat c).2.rest.length ≤ cursor.rest.length := by
  unfold eat
  split
  · exact cursor.rest_move_le 1
  · exact Nat.le_refl _

theorem rest_eat_match_le (cursor : Cursor) (pattern : Pattern) :
    (cursor.eatMatch pattern).2.rest.length ≤ cursor.rest.length := by
  unfold eatMatch
  split
  · exact cursor.rest_move_le _
  · exact Nat.le_refl _

theorem split_before (text : Text) (c : Char) (member : c ∈ text) :
    ∃ rest, text = (text.takeWhile fun other => other != c) ++ c :: rest := by
  induction text with
  | nil => cases member
  | cons d text ih =>
      by_cases same : d = c
      · exact ⟨text, by simp [same]⟩
      · obtain ⟨rest, parts⟩ := ih ((List.mem_cons.mp member).resolve_left (Ne.symm same))
        refine ⟨rest, ?_⟩
        rw [List.takeWhile_cons_of_pos (by simp [same]), List.cons_append, ← parts]

theorem skip_to_past (cursor star : Cursor) (c : Char) (found : cursor.skipTo c = (true, star)) :
    ∃ front, c ∉ front ∧ cursor.rest = front ++ c :: star.next.2.rest ∧
      star.next.2 = cursor.move (front.length + 1) := by
  unfold skipTo at found
  split at found
  · rename_i member
    cases found
    obtain ⟨back, parts⟩ := split_before cursor.rest c (by simpa using member)
    generalize front_eq : (cursor.rest.takeWhile fun other => other != c) = front at parts
    have standing : (cursor.move front.length).rest = c :: back := by
      rw [rest_move, parts, List.drop_left]
    have passed : (cursor.move front.length).next.2 = cursor.move (front.length + 1) := by
      rw [next_some _ c (congrArg List.head? standing)]
      rfl
    refine ⟨front, ?_, ?_, passed⟩
    · intro inside
      have other := List.all_eq_true.mp List.all_takeWhile c (front_eq ▸ inside)
      simp at other
    · rw [passed, rest_move, ← List.drop_drop, ← rest_move, standing, List.drop_one, List.tail_cons, parts]
  · cases found

theorem skip_to_missing (cursor after : Cursor) (c : Char) (missing : cursor.skipTo c = (false, after)) :
    c ∉ cursor.rest := by
  unfold skipTo at missing
  split at missing
  · cases missing
  · rename_i absent
    simpa using absent

end Cursor

end FilterAssist
