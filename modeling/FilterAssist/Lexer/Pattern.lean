import FilterAssist.Text.Basic

set_option autoImplicit false

/-!
Patterns for the tails of numbers. A match is sought from the left, and among the matches at one
place the first in order of preference counts: a repetition and an option would rather take more.
-/
namespace FilterAssist

inductive PatternPart where
  | one (test : Char → Bool)
  | run (least : Nat) (test : Char → Bool)
  | optional (part : PatternPart)
  | sequence (first second : PatternPart)

-- The lengths of all matches at the front of a text, the preferred one first.
def PatternPart.lengths : PatternPart → Text → List Nat
  | .one test, text => if text.head?.any test then [1] else []
  | .run least test, text =>
    (List.range' least ((text.takeWhile test).length + 1 - least)).reverse
  | .optional part, text => part.lengths text ++ [0]
  | .sequence first second, text =>
    (first.lengths text).flatMap fun length =>
      (second.lengths (text.drop length)).map fun more => length + more

structure Pattern where
  part : PatternPart
  anchored : Bool := true

namespace Pattern

def findFrom (pattern : Pattern) (start : Nat) (text : Text) : Option (Nat × Nat) :=
  match (pattern.part.lengths text).head?, text with
  | some length, _ => some (start, length)
  | none, [] => none
  | none, _ :: rest => if pattern.anchored then none else pattern.findFrom (start + 1) rest

def find (pattern : Pattern) (text : Text) : Option (Nat × Nat) :=
  pattern.findFrom 0 text

end Pattern

def isExponentMark (c : Char) : Bool :=
  c == 'e' || c == 'E'

def isSign (c : Char) : Bool :=
  c == '-' || c == '+'

def isPointDigit (c : Char) : Bool :=
  isDigit c || c == 'e' || c == 'E'

def exponentPart : PatternPart :=
  .sequence (.one isExponentMark) (.sequence (.optional (.one isSign)) (.run 1 isDigit))

def decimalPart : PatternPart :=
  .sequence (.run 1 isDigit) (.optional exponentPart)

/-- The pattern `^[0-9]*\.?[0-9]+([eE][-+]?[0-9]+)?`. -/
def numberTail : Pattern where
  part := .sequence (.run 0 isDigit)
    (.sequence (.optional (.one (· == '.'))) decimalPart)

/-- The pattern `^[0-9eE]+`. -/
def pointTail : Pattern where
  part := .run 1 isPointDigit

end FilterAssist
