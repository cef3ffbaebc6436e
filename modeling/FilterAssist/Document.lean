import FilterAssist.Token

set_option autoImplicit false

/-!
A document as the tools see it: lines of text, each with its tokens. Nothing is assumed of the
tokens; they may leave gaps, overlap, or come in any order.
-/
namespace FilterAssist

structure DocumentLine where
  text : Text
  tokens : List Token
deriving DecidableEq, Repr

structure Document where
  lines : List DocumentLine
deriving DecidableEq, Repr

/-- Halving search among the `size` tokens from `base` on: the index of the first token that is not
`before`, provided that all tokens before it are. -/
def partitionFrom (before : Token → Bool) (tokens : List Token) (base size : Nat) : Nat :=
  if 1 < size then
    let half := size / 2
    let middle := base + half
    partitionFrom before tokens (if tokens[middle]?.any before then middle else base) (size - half)
  else if tokens[base]?.any before then base + 1
  else base
termination_by size

def partitionPoint (before : Token → Bool) (tokens : List Token) : Nat :=
  partitionFrom before tokens 0 tokens.length

namespace Document

def lineCount (document : Document) : Nat :=
  document.lines.length

def lineText? (document : Document) (line : Nat) : Option Text :=
  document.lines[line]?.map DocumentLine.text

def lineTokens (document : Document) (line : Nat) : List Token :=
  (document.lines[line]?.map DocumentLine.tokens).getD []

def lineLength (document : Document) (line : Nat) : Nat :=
  ((document.lineText? line).map List.length).getD 0

/-- The token under a cursor that stands before `column`, clipped to the line. At column 0 that is
an empty token; elsewhere it is the token that starts before the column and ends at or after it. -/
def tokenAt (document : Document) (line column : Nat) : Option Token :=
  match document.lineText? line with
  | none => none
  | some text =>
    let column := min column text.length
    if column = 0 then some (Token.empty 0)
    else
      let tokens := document.lineTokens line
      tokens[partitionPoint (fun token => decide (token.stop < column)) tokens]?

end Document

end FilterAssist
