import FilterAssist.Text.Basic

set_option autoImplicit false

/-!
Visual columns: where a character stands on the screen once tabs are widened. They are counted in
words of 64 bits, which wrap.
-/
namespace FilterAssist

structure Layout where
  indentUnit : Nat := 2
  tabSize : Nat := 4
  alignBrackets : Bool := false
deriving DecidableEq, Repr

def Layout.tabWord (layout : Layout) : UInt64 :=
  UInt64.ofNat layout.tabSize

-- The sum that a character takes the column to, before a tab goes back to its stop.
def wordSum (tabSize column : UInt64) (c : Char) : UInt64 :=
  if c = '\t' then column + max tabSize 1 else column + 1

def nextWord (tabSize column : UInt64) (c : Char) : UInt64 :=
  if c = '\t' then wordSum tabSize column c - column % max tabSize 1 else wordSum tabSize column c

def wordColumn (tabSize : UInt64) (line : Text) (index : Nat) : UInt64 :=
  (line.take index).foldl (nextWord tabSize) 0

def indentation (tabSize : UInt64) (line : Text) : UInt64 :=
  wordColumn tabSize line (line.takeWhile isBlank).length

theorem indentation_blanks (tabSize : UInt64) (line : Text) :
    indentation tabSize line = (line.takeWhile isBlank).foldl (nextWord tabSize) 0 := by
  rw [indentation, wordColumn, ← List.prefix_iff_eq_take.mp (List.takeWhile_prefix isBlank)]

end FilterAssist
