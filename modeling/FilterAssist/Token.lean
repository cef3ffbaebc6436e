import FilterAssist.Text.Quoted

set_option autoImplicit false

/-!
Tokens: classified spans of one line. Columns count characters; a token runs from `start` up to,
but not including, `stop`.
-/
namespace FilterAssist

inductive TokenKind where
  | openBracket
  | closeBracket
  | string
  | comment
  | number
  | operator
  | logical
  | keyword
  | punctuation
  | target
deriving DecidableEq, Repr

namespace TokenKind

def all : List TokenKind :=
  [.openBracket, .closeBracket, .string, .comment, .number, .operator, .logical, .keyword,
   .punctuation, .target]

def name : TokenKind → String
  | .openBracket => "openbracket"
  | .closeBracket => "closebracket"
  | .string => "string"
  | .comment => "comment"
  | .number => "number"
  | .operator => "operator"
  | .logical => "logical"
  | .keyword => "keyword"
  | .punctuation => "punctuation"
  | .target => "target"

def ofName? (name : String) : Option TokenKind :=
  all.find? fun kind => kind.name == name

end TokenKind

-- Blank stretches and words outside the vocabulary have no kind.
structure Token where
  kind : Option TokenKind
  text : Text
  start : Nat
  stop : Nat
deriving DecidableEq, Repr

namespace Token

def empty (column : Nat) : Token :=
  ⟨none, [], column, column⟩

def isMeaningful (token : Token) : Bool :=
  match token.kind with
  | none => false
  | some kind => decide (kind ≠ .comment)

def isWhitespace (token : Token) : Bool :=
  token.kind.isNone && token.text.allBlank

def length (token : Token) : Nat :=
  token.stop - token.start

def isEmpty (token : Token) : Bool :=
  token.start == token.stop

def display (token : Token) : Text :=
  let name := match token.kind with
    | none => "null"
    | some kind => kind.name
  name.toList ++ ['('] ++ quoted token.text ++ [')']

def layOut (column : Nat) : List (Option TokenKind × Text) → List Token
  | [] => []
  | (kind, text) :: parts =>
    ⟨kind, text, column, column + text.length⟩ :: layOut (column + text.length) parts

def displayLine (tokens : List Token) : Text :=
  Text.joinWith [' '] ((tokens.filter fun token => !token.isWhitespace).map display)

end Token

end FilterAssist
