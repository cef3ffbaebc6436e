import FilterAssist.Document

set_option autoImplicit false

/-!
The nearest token that means something, before or after a position. The search goes from token to
token and across line ends, and gives up at either end of the document. It ends on any document:
backward the position falls, forward it rises.
-/
namespace FilterAssist

inductive Direction where
  | backward
  | forward
deriving DecidableEq, Repr

namespace Document

def walkBackward (document : Document) (line column : Nat) : Option (Nat × Token) :=
  match column with
  | 0 =>
    match line with
    | 0 => none
    | above + 1 => document.walkBackward above (document.lineLength above)
  | left + 1 =>
    match document.tokenAt line (left + 1) with
    | none => none
    | some token =>
      if token.isMeaningful then some (line, token)
      else document.walkBackward line (min token.start left)
termination_by (line, column)
decreasing_by
  · exact Prod.Lex.left _ _ (Nat.lt_succ_self above)
  · exact Prod.Lex.right _ (Nat.lt_succ_of_le (Nat.min_le_right _ _))

def walkForward (document : Document) (line column : Nat) : Option Token :=
  if column < document.lineLength line then
    match document.tokenAt line (column + 1) with
    | none => none
    | some token =>
      if token.isMeaningful then some token
      else document.walkForward line (max token.stop (column + 1))
  else if line + 1 < document.lineCount then document.walkForward (line + 1) 0
  else none
termination_by (document.lineCount - line, document.lineLength line - column)
decreasing_by
  · exact Prod.Lex.right _ (by omega)
  · exact Prod.Lex.left _ _ (by omega)

def previousTokenWithLine (document : Document) (line column : Nat) : Option (Nat × Token) :=
  if line < document.lineCount then
    document.walkBackward line (min column (document.lineLength line))
  else none

def previousToken (document : Document) (line column : Nat) : Option Token :=
  (document.previousTokenWithLine line column).map Prod.snd

def nextToken (document : Document) (line column : Nat) : Option Token :=
  if line < document.lineCount then document.walkForward line column else none

def adjacentToken (document : Document) (direction : Direction) (line column : Nat) :
    Option Token :=
  match direction with
  | .backward => document.previousToken line column
  | .forward => document.nextToken line column

end Document

end FilterAssist
