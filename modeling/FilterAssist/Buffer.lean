import FilterAssist.Document
import FilterAssist.Lexer.Line

set_option autoImplicit false

/-!
A text under edit. Each line keeps its tokens and the state in which the next line starts. An edit
lexes the new lines and then the lines after them, until one of those ends in the state it ended in
before; the lines after that one are kept as they are.
-/
namespace FilterAssist

structure BufferLine where
  text : Text
  tokens : List Token
  after : LexState
deriving DecidableEq, Repr

structure Buffer where
  lexer : Lexer
  rows : List BufferLine

def BufferLine.lex (lexer : Lexer) (state : LexState) (text : Text) : BufferLine :=
  let lexed := lexer.lexLine text state
  ⟨text, lexed.1, lexed.2.clearPending⟩

def lexRows (lexer : Lexer) (state : LexState) : List Text → List BufferLine
  | [] => []
  | text :: texts =>
    let row := BufferLine.lex lexer state text
    row :: lexRows lexer row.after texts

def stateAfterRows (state : LexState) (rows : List BufferLine) : LexState :=
  (rows.getLast?.map BufferLine.after).getD state

/-- The rows lexed again from `state` on, up to the first that ends as it ended before, and how many
that are. -/
def settleRows (lexer : Lexer) (state : LexState) : List BufferLine → List BufferLine × Nat
  | [] => ([], 0)
  | row :: rows =>
    let fresh := BufferLine.lex lexer state row.text
    if fresh.after = row.after then (fresh :: rows, 1)
    else
      let settled := settleRows lexer fresh.after rows
      (fresh :: settled.1, settled.2 + 1)

def splitLines (text : Text) : List Text :=
  (text.splitOn '\n').map fun line =>
    if line.getLast? = some '\r' then line.dropLast else line

/-- The lines from `start` up to, but not including, `stop`. -/
structure LineRange where
  start : Nat
  stop : Nat
deriving DecidableEq, Repr

namespace Buffer

def ofText (lexer : Lexer) (text : Text) : Buffer :=
  ⟨lexer, lexRows lexer .start (splitLines text)⟩

def lines (buffer : Buffer) : List Text :=
  buffer.rows.map BufferLine.text

def text (buffer : Buffer) : Text :=
  Text.joinWith ['\n'] buffer.lines

def document (buffer : Buffer) : Document :=
  ⟨buffer.rows.map fun row => ⟨row.text, row.tokens⟩⟩

def states (buffer : Buffer) : List LexState :=
  .start :: buffer.rows.map BufferLine.after

def stateBefore (buffer : Buffer) (line : Nat) : Option LexState :=
  if line < buffer.rows.length then buffer.states[line]? else none

def stateAfter (buffer : Buffer) (line : Nat) : Option LexState :=
  buffer.rows[line]?.map BufferLine.after

def setText (buffer : Buffer) (text : Text) : Buffer :=
  ofText buffer.lexer text

def replaceLines (buffer : Buffer) (range : LineRange) (texts : List Text) : Buffer × LineRange :=
  let stop := min range.stop buffer.rows.length
  let start := min range.start stop
  let kept := buffer.rows.take start
  let later := buffer.rows.drop stop
  let state := stateAfterRows .start kept
  match texts with
  | [] =>
    let settled := settleRows buffer.lexer state later
    match kept ++ settled.1 with
    | [] => (⟨buffer.lexer, lexRows buffer.lexer .start [[]]⟩, ⟨0, 1⟩)
    | rows => (⟨buffer.lexer, rows⟩, ⟨start, start + settled.2⟩)
  | texts =>
    let fresh := lexRows buffer.lexer state texts
    let reached := stateAfterRows state fresh
    if reached = stateAfterRows .start (buffer.rows.take stop) then
      (⟨buffer.lexer, kept ++ fresh ++ later⟩, ⟨start, start + texts.length⟩)
    else
      let settled := settleRows buffer.lexer reached later
      (⟨buffer.lexer, kept ++ fresh ++ settled.1⟩, ⟨start, start + texts.length + settled.2⟩)

def setLine (buffer : Buffer) (line : Nat) (text : Text) : Buffer × LineRange :=
  buffer.replaceLines ⟨line, line + 1⟩ [text]

def indentFor (buffer : Buffer) (line : Nat) : Option UInt64 :=
  match buffer.stateBefore line, buffer.rows[line]? with
  | some state, some row => buffer.lexer.indent state row.text.trimStart
  | _, _ => none

end Buffer

end FilterAssist
